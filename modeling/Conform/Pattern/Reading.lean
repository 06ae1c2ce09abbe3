import Conform.Pattern.Token

namespace Conform.Pattern

/-- What is still to be read, and what has been seen of flags and groups. Groups are numbered from
one; a group has no width while it is open. -/
structure Reading where
  rest : List Token
  stop : Nat
  flags : List Flag
  widths : List (Option Width)
  names : List (String × Nat)
  /-- The number of groups opened before the outermost lookbehind that is being read. -/
  lookbehind : Option Nat
  /-- The groups that conditions ask for by number, with the place of the first such condition. -/
  conditions : List (Nat × Nat)

abbrev Read := StateT Reading (Except Error)

namespace Read

def position : Read Nat := do
  let s ← get
  match s.rest with
  | [] => pure s.stop
  | token :: _ => pure token.position

def failAt {α : Type} (issue : Issue) (position : Nat) : Read α :=
  throw (.malformed issue (some position))

/-- Points that many characters back. -/
def failBack {α : Type} (issue : Issue) (offset : Nat) : Read α := do
  failAt issue ((← position) - offset)

/-- Goes on with these tokens. -/
def resume (rest : List Token) : Read Unit :=
  match rest with
  | ⟨position, .backslash⟩ :: _ => failAt .trailingBackslash position
  | _ => modify fun s => { s with rest := rest }

def peek : Read (Option Sign) := do
  pure ((← get).rest.head?.map (·.sign))

def next : Read (Option Sign) := do
  match (← get).rest with
  | [] => pure none
  | token :: rest =>
    resume rest
    pure (some token.sign)

def accept (c : Char) : Read Bool := do
  if (← peek) = some (.plain c) then
    discard next
    pure true
  else pure false

/-- At most that many characters, as long as they pass. -/
def takeWhile (test : Char → Bool) : Nat → Read (List Char)
  | 0 => pure []
  | n + 1 => do
    match ← peek with
    | some (.plain c) =>
      if test c then
        discard next
        let cs ← takeWhile test n
        pure (c :: cs)
      else pure []
    | _ => pure []

/-- All characters up to the terminator, which is taken too; `none` if it does not come. -/
def takeUntil (terminator : Char) : Read (List Char × Bool) := do
  let s ← get
  match spanUntil terminator s.rest with
  | (cs, some rest) =>
    resume rest
    pure (cs, true)
  | (cs, none) =>
    match s.rest.getLast? with
    | some ⟨position, .backslash⟩ => failAt .trailingBackslash position
    | _ =>
      set { s with rest := [] }
      pure (cs, false)

def takeName (terminator : Char) (what : String) : Read (List Char) := do
  match ← takeUntil terminator with
  | ([], true) => failBack (.missingName what) 1
  | ([], false) => failBack (.missingName what) 0
  | (cs, true) => pure cs
  | (cs, false) => failBack (.unterminatedName terminator) cs.length

end Read

end Conform.Pattern
