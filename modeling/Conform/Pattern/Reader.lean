import Conform.Pattern.Alternative
import Conform.Pattern.Bracket
import Conform.Pattern.Opening
import Conform.Pattern.Quantifier

namespace Conform.Pattern

open Read

def isVerboseBlank (c : Char) : Bool :=
  c = ' ' || ('\t' ≤ c && c ≤ '\r')

mutual

/-- Alternatives up to the end of the group, oldest first after `found`. Global flags can stand only
at the start of the first alternative of the whole pattern. -/
def readAlternatives (fuel : Nat) (top verbose : Bool) (found : List (List Node)) :
    Read (List (List Node)) :=
  match fuel with
  | 0 => pure found
  | fuel + 1 => do
    let body ← readSequence fuel verbose (top && found.isEmpty) []
    let found := found ++ [body]
    if ← accept '|' then
      let flags := (← get).flags
      let verbose := if top then flags.contains .verbose else verbose
      readAlternatives fuel top verbose found
    else pure found

/-- One alternative; `found` holds its nodes so far, newest first. -/
def readSequence (fuel : Nat) (verbose first : Bool) (found : List Node) : Read (List Node) :=
  match fuel with
  | 0 => pure (unpack found.reverse)
  | fuel + 1 => do
    let start ← position
    match ← peek with
    | none => pure (unpack found.reverse)
    | some (.plain '|') => pure (unpack found.reverse)
    | some (.plain ')') => pure (unpack found.reverse)
    | some sign =>
      discard next
      match sign with
      | .backslash => pure (unpack found.reverse)
      | .escape c =>
        let node ← readEscape c
        readSequence fuel verbose first (node :: found)
      | .plain c =>
        if verbose && isVerboseBlank c then readSequence fuel verbose first found
        else if verbose && c = '#' then
          discard (takeUntil '\n')
          readSequence fuel verbose first found
        else if c = '[' then
          let node ← readSet start
          readSequence fuel verbose first (node :: found)
        else if isQuantifier c then
          let found ← readQuantifier c start found
          readSequence fuel verbose first found
        else if c = '.' then readSequence fuel verbose first (.any :: found)
        else if c = '^' then readSequence fuel verbose first (.anchor .lineStart :: found)
        else if c = '$' then readSequence fuel verbose first (.anchor .lineEnd :: found)
        else if c = '(' then
          match ← readOpening start (first && found.isEmpty) with
          | .comment => readSequence fuel verbose first found
          | .node node => readSequence fuel verbose first (node :: found)
          | .globalFlags =>
            readSequence fuel ((← get).flags.contains .verbose) first found
          | .capture name =>
            let number ← openGroup name
            let body := joinAlternatives (← readAlternatives fuel false verbose [])
            expectClose start
            closeGroup number body
            readSequence fuel verbose first (.group (some number) [] [] body :: found)
          | .group on off =>
            let inner := (verbose || on.contains .verbose) && !off.contains .verbose
            let body := joinAlternatives (← readAlternatives fuel false inner [])
            expectClose start
            readSequence fuel verbose first (.group none on off body :: found)
          | .atomic =>
            let body := joinAlternatives (← readAlternatives fuel false verbose [])
            expectClose start
            readSequence fuel verbose first (.atomic body :: found)
          | .look ahead negated =>
            let outer := (← get).lookbehind
            unless ahead || outer.isSome do
              modify fun s => { s with lookbehind := some s.widths.length }
            let body := joinAlternatives (← readAlternatives fuel false verbose [])
            modify fun s => { s with lookbehind := outer }
            expectClose start
            readSequence fuel verbose first (.look ahead negated body :: found)
          | .condition group =>
            let held ← readSequence fuel verbose false []
            let missing ←
              if ← accept '|' then do
                let missing ← readSequence fuel verbose false []
                if (← peek) = some (.plain '|') then failBack .tooManyBranches 0
                pure missing
              else pure []
            expectClose start
            readSequence fuel verbose first (.condition group held missing :: found)
        else readSequence fuel verbose first (.literal c.toNat :: found)

end

mutual

/-- A lookbehind must have one width. Repetition has no place in a template. -/
def checkNode (template : Bool) : Node → Except Error Unit
  | .group _ _ _ body => checkNodes template body
  | .atomic body => checkNodes template body
  | .branch alternatives => checkBranches template alternatives
  | .condition _ held missing => do
    checkNodes template held
    checkNodes template missing
  | .look ahead _ body => do
    let w := width body
    if !ahead && repeatLimit < w.least then throw (.malformed .lookbehindTooWide none)
    if !ahead && w.least != w.most then throw (.malformed .variableLookbehind none)
    checkNodes template body
  | .repeated greed _ _ body =>
    if template then .error (.malformed (.repeatInTemplate greed) none) else checkNodes template body
  | _ => .ok ()

def checkNodes (template : Bool) : List Node → Except Error Unit
  | [] => .ok ()
  | node :: rest => do
    checkNode template node
    checkNodes template rest

def checkBranches (template : Bool) : List (List Node) → Except Error Unit
  | [] => .ok ()
  | body :: rest => do
    checkNodes template body
    checkBranches template rest

end

/-- Without a choice the alphabet is Unicode. -/
def settleFlags (flags : List Flag) : Except Error (List Flag) :=
  if flags.contains .ascii then
    if flags.contains .unicode then .error .incompatibleFlags else .ok flags
  else .ok (flags ++ [.unicode])

def readPattern : Read (List Node × List Flag) := do
  resume (← get).rest
  let fuel := 2 * (← get).rest.length + 2
  let body := joinAlternatives (← readAlternatives fuel true false [])
  let s ← get
  let flags ← settleFlags s.flags
  unless s.rest.isEmpty do failBack .unbalancedParenthesis 0
  match s.conditions.find? fun (group, _) => s.widths.length < group with
  | some (group, place) => failAt (.unknownGroupNumber group) place
  | none => pure ()
  checkNodes (flags.contains .template) body
  pure (body, flags)

/-- A pattern's tree with the flags that hold at its root. -/
def read (source : String) : Except Error (List Node × List Flag) :=
  let cs := source.toList
  (readPattern.run ⟨tokens 0 cs, cs.length, [], [], [], none, []⟩).map Prod.fst

end Conform.Pattern
