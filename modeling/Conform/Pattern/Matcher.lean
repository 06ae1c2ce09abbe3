import Conform.Pattern.CharacterSet

namespace Conform.Pattern

/-- Where matching has come to, and where groups have last begun and ended, newest first. -/
structure Progress where
  position : Nat
  starts : List (Nat × Nat)
  stops : List (Nat × Nat)

namespace Progress

/-- The text between the two places of a group; none while a later pass through the group is open.
-/
def captured? (p : Progress) (group : Nat) : Option (Nat × Nat) :=
  match p.starts.lookup group, p.stops.lookup group with
  | some start, some stop => if start ≤ stop then some (start, stop) else none
  | _, _ => none

def start (p : Progress) : Option Nat → Progress
  | some group => { p with starts := (group, p.position) :: p.starts }
  | none => p

def stop (p : Progress) : Option Nat → Progress
  | some group => { p with stops := (group, p.position) :: p.stops }
  | none => p

end Progress

abbrev Continuation := Progress → Option Progress

/-- Matches one thing and then whatever the continuation matches, trying its own ways in order of
preference. -/
abbrev Matcher := Progress → Continuation → Option Progress

/-- Exactly `n` times. -/
def times (body : Matcher) (k : Continuation) : Nat → Continuation
  | 0, p => k p
  | n + 1, p => body p (times body k n)

/-- Whether another pass may begin: the count allows it and the pass before has moved on. -/
def mayRepeat (left : Option Nat) (last : Option Nat) (p : Progress) : Bool :=
  left != some 0 && last != some p.position

/-- As many times as possible, up to `left` times. -/
def greedily (body : Matcher) (k : Continuation) :
    Nat → Option Nat → Option Nat → Continuation
  | 0, _, _, p => k p
  | fuel + 1, left, last, p =>
    if mayRepeat left last p then
      match body p (greedily body k fuel (left.map (· - 1)) (some p.position)) with
      | some done => some done
      | none => k p
    else k p

/-- As few times as possible, up to `left` times. -/
def lazily (body : Matcher) (k : Continuation) :
    Nat → Option Nat → Option Nat → Continuation
  | 0, _, _, p => k p
  | fuel + 1, left, last, p =>
    match k p with
    | some done => some done
    | none =>
      if mayRepeat left last p then
        body p (lazily body k fuel (left.map (· - 1)) (some p.position))
      else none

/-- As many times as possible, never giving back a pass. -/
def possessively (body : Matcher) : Nat → Option Nat → Option Nat → Progress → Progress
  | 0, _, _, p => p
  | fuel + 1, left, last, p =>
    if mayRepeat left last p then
      match body p some with
      | some q => possessively body fuel (left.map (· - 1)) (some p.position) q
      | none => p
    else p

section

variable (text : Array Char)

def codeAt? (position : Nat) : Option Nat :=
  text[position]?.map Char.toNat

def isWordAt (flags : List Flag) (position : Nat) : Bool :=
  match codeAt? text position with
  | some c => isWord (flags.contains .unicode) c
  | none => false

def isNewlineAt (position : Nat) : Bool :=
  codeAt? text position == some 0x0A

/-- Whether exactly one side of the position is part of a word. -/
def isBoundary (flags : List Flag) (position : Nat) : Bool :=
  (0 < position && isWordAt text flags (position - 1)) != isWordAt text flags position

/-- The end of a line is also just before a last line break. An empty text has no boundaries, and no
places that are none. -/
def Anchor.holds (flags : List Flag) (anchor : Anchor) (position : Nat) : Bool :=
  match anchor with
  | .textStart => position == 0
  | .textEnd => position == text.size
  | .lineStart =>
    position == 0 || (flags.contains .multiline && isNewlineAt text (position - 1))
  | .lineEnd =>
    position == text.size ||
      (isNewlineAt text position && (flags.contains .multiline || position + 1 == text.size))
  | .boundary => !text.isEmpty && isBoundary text flags position
  | .inside => !text.isEmpty && !isBoundary text flags position

/-- Whether the same code points, folded if case is ignored, stand at both places. -/
def repeatsAt (flags : List Flag) (start position : Nat) : Nat → Bool
  | 0 => true
  | length + 1 =>
    match codeAt? text start, codeAt? text position with
    | some a, some b =>
      let same :=
        if flags.contains .ignoreCase then
          fold (flags.contains .unicode) a == fold (flags.contains .unicode) b
        else a == b
      same && repeatsAt flags (start + 1) (position + 1) length
    | _, _ => false

mutual

def matchNode (flags : List Flag) : Node → Matcher
  | .anchor anchor, p, k => if anchor.holds text flags p.position then k p else none
  | .backref group _, p, k =>
    match p.captured? group with
    | none => none
    | some (start, stop) =>
      if repeatsAt text flags start p.position (stop - start) then
        k { p with position := p.position + (stop - start) }
      else none
  | .group number on off body, p, k =>
    matchNodes (regroup flags on off) body (p.start number) fun q => k (q.stop number)
  | .atomic body, p, k =>
    match matchNodes flags body p some with
    | some q => k q
    | none => none
  | .branch alternatives, p, k => matchFirst flags alternatives p k
  | .condition group held missing, p, k =>
    match p.captured? group with
    | some _ => matchNodes flags held p k
    | none => matchNodes flags missing p k
  | .look ahead negated body, p, k =>
    let back := if ahead then 0 else (width body).least
    let found :=
      if back ≤ p.position then
        matchNodes flags body { p with position := p.position - back } some
      else none
    match negated, found with
    | false, some q => k { q with position := p.position }
    | true, none => k p
    | _, _ => none
  | .repeated greed least most body, p, k =>
    let left := most.map (· - least)
    let fuel := text.size + 2
    let once : Matcher := fun q k => matchNodes flags body q k
    match greed with
    | .greedy => times once (greedily once k fuel left none) least p
    | .lazy => times once (lazily once k fuel left none) least p
    | .possessive =>
      match times (fun q k => (once q some).bind k) some least p with
      | some q => k (possessively once fuel left none q)
      | none => none
  | node, p, k =>
    match codeAt? text p.position with
    | some c => if node.accepts flags c then k { p with position := p.position + 1 } else none
    | none => none

def matchNodes (flags : List Flag) : List Node → Matcher
  | [], p, k => k p
  | node :: rest, p, k => matchNode flags node p fun q => matchNodes flags rest q k

/-- The first alternative that leads to a match. -/
def matchFirst (flags : List Flag) : List (List Node) → Matcher
  | [], _, _ => none
  | body :: rest, p, k =>
    match matchNodes flags body p k with
    | some q => some q
    | none => matchFirst flags rest p k

end

/-- Whether the nodes match from some place among the next `left` ones. -/
def matchesFrom (flags : List Flag) (body : List Node) (position : Nat) : Nat → Bool
  | 0 => false
  | left + 1 =>
    (matchNodes text flags body ⟨position, [], []⟩ some).isSome ||
      matchesFrom flags body (position + 1) left

end

/-- Whether the nodes match somewhere in the text. -/
def found (flags : List Flag) (body : List Node) (s : String) : Bool :=
  let text := s.toList.toArray
  matchesFrom text flags body 0 (text.size + 1)

end Conform.Pattern
