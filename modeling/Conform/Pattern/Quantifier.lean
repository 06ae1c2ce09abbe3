import Conform.Pattern.Escape

namespace Conform.Pattern

open Read

/-- Counts from here on cannot be asked for. -/
def repeatLimit : Nat :=
  4294967295

def readCount (digits : List Char) : Read Nat := do
  if Text.longestNumber < digits.length then throw (.numberTooLong digits.length)
  let n := numeral 10 digits
  if repeatLimit ≤ n then throw .repeatTooLarge
  pure n

/-- The bounds between braces, or `none` if what follows the brace is no such bounds. -/
def readBounds : Read (Option (Nat × Option Nat)) := do
  let s ← get
  if (← peek) = some (.plain '\x7d') then return none
  let lo ← takeWhile isDecimal s.rest.length
  let hi ← if ← accept ',' then takeWhile isDecimal s.rest.length else pure lo
  if ← accept '\x7d' then
    let least ← if lo.isEmpty then pure 0 else readCount lo
    if hi.isEmpty then pure (some (least, none))
    else
      let most ← readCount hi
      if most < least then failAt .leastAboveMost ((s.rest.head?.map (·.position)).getD s.stop)
      pure (some (least, some most))
  else
    set s
    pure none

def readGreed : Read Greed := do
  if ← accept '?' then pure .lazy
  else if ← accept '+' then pure .possessive
  else pure .greedy

/-- Puts a quantifier that stands at `start` on the newest of the nodes. -/
def quantify (start least : Nat) (most : Option Nat) : List Node → Read (List Node)
  | [] => failAt .nothingToRepeat start
  | .anchor _ :: _ => failAt .nothingToRepeat start
  | .repeated .. :: _ => failAt .multipleRepeat start
  | node :: found => do
    let body := match node with
      | .group none [] [] body => body
      | node => [node]
    let greed ← readGreed
    pure (.repeated greed least most body :: found)

def isQuantifier (c : Char) : Bool :=
  c = '*' || c = '+' || c = '?' || c = '\x7b'

def readQuantifier (c : Char) (start : Nat) (found : List Node) : Read (List Node) := do
  match c with
  | '*' => quantify start 0 none found
  | '+' => quantify start 1 none found
  | '?' => quantify start 0 (some 1) found
  | _ =>
    match ← readBounds with
    | some (least, most) => quantify start least most found
    | none => pure (.literal c.toNat :: found)

end Conform.Pattern
