import Conform.Pattern.Error
import Conform.Text.Blank
import Conform.Text.Numeral

namespace Conform.Pattern

inductive Sign where
  | plain (char : Char)
  | escape (char : Char)
  | backslash
deriving DecidableEq

def Sign.chars : Sign → List Char
  | .plain c => [c]
  | .escape c => ['\\', c]
  | .backslash => ['\\']

def Sign.text (s : Sign) : String :=
  String.ofList s.chars

structure Token where
  position : Nat
  sign : Sign

/-- A backslash that nothing follows can only stand last. -/
def tokens : Nat → List Char → List Token
  | _, [] => []
  | n, ['\\'] => [⟨n, .backslash⟩]
  | n, '\\' :: c :: cs => ⟨n, .escape c⟩ :: tokens (n + 2) cs
  | n, c :: cs => ⟨n, .plain c⟩ :: tokens (n + 1) cs

/-- What comes before the first plain `stop`, and what comes after it if there is one. -/
def spanUntil (stop : Char) : List Token → List Char × Option (List Token)
  | [] => ([], none)
  | token :: rest =>
    if token.sign = .plain stop then ([], some rest)
    else
      let (before, after) := spanUntil stop rest
      (token.sign.chars ++ before, after)

/-- Digits of any script in groups joined by single low lines. -/
def groupedDigits? : List Char → Option (List Nat)
  | [] => none
  | [c] => (Text.digitValue? c.toNat).map fun d => [d]
  | c :: '_' :: cs => do
    let d ← Text.digitValue? c.toNat
    let ds ← groupedDigits? cs
    some (d :: ds)
  | c :: cs => do
    let d ← Text.digitValue? c.toNat
    let ds ← groupedDigits? cs
    some (d :: ds)

/-- A whole number between blanks, with a sign if it has one. -/
def integer? (cs : List Char) : Option Int :=
  let blank := fun c : Char => Text.isBlank c.toNat
  let trimmed := ((cs.dropWhile blank).reverse.dropWhile blank).reverse
  let (negative, body) := match trimmed with
    | '-' :: rest => (true, rest)
    | '+' :: rest => (false, rest)
    | rest => (false, rest)
  match groupedDigits? body with
  | none => none
  | some digits =>
    if Text.longestNumber < digits.length then none
    else
      let n : Nat := digits.foldl (fun n d => 10 * n + d) 0
      some (if negative then -(n : Int) else n)

end Conform.Pattern
