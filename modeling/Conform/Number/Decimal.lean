namespace Conform

/-- The number `digits * 10 ^ exponent`, negated if asked. -/
structure Decimal where
  negative : Bool
  digits : Nat
  exponent : Int

namespace Decimal

def isDigit (c : Char) : Bool :=
  '0' ≤ c && c ≤ '9'

def number (cs : List Char) : Nat :=
  cs.foldl (fun n c => 10 * n + (c.toNat - '0'.toNat)) 0

/-- An exponent part: nothing, or `e`, a sign if it has one, and digits. -/
def exponent? : List Char → Option Int
  | [] => some 0
  | 'e' :: '-' :: cs => if !cs.isEmpty && cs.all isDigit then some (-(number cs : Int)) else none
  | 'e' :: '+' :: cs => if !cs.isEmpty && cs.all isDigit then some (number cs) else none
  | 'e' :: cs => if !cs.isEmpty && cs.all isDigit then some (number cs) else none
  | _ => none

/-- Digits, a fraction if there is a point, and an exponent. -/
def unsigned? (negative : Bool) (cs : List Char) : Option Decimal :=
  let whole := cs.takeWhile isDigit
  let (fraction, rest) := match cs.dropWhile isDigit with
    | '.' :: more => (more.takeWhile isDigit, more.dropWhile isDigit)
    | more => ([], more)
  if whole.isEmpty then none
  else (exponent? rest).map fun e => ⟨negative, number (whole ++ fraction), e - fraction.length⟩

def ofText? (s : String) : Option Decimal :=
  match s.toList with
  | '-' :: cs => unsigned? true cs
  | cs => unsigned? false cs

def zeros (n : Int) : String :=
  String.ofList (List.replicate n.toNat '0')

/-- A written exponent has a sign and at least two digits. -/
def exponentText (e : Int) : String :=
  let digits := toString e.natAbs
  (if e < 0 then "e-" else "e+") ++ (if digits.length < 2 then "0" else "") ++ digits

/-- The value is below `10 ^ point` and not below a tenth of it. From `10 ^ -4` up to `10 ^ 16` all
places are written out, with at least one after the point; elsewhere one digit stands before it. -/
def text (d : Decimal) : String :=
  let digits := toString d.digits
  let point := digits.length + d.exponent
  let body :=
    if -4 < point && point ≤ 0 then "0." ++ zeros (-point) ++ digits
    else if 0 < point && point ≤ 16 then
      if 0 ≤ d.exponent then digits ++ zeros d.exponent ++ ".0"
      else
        let cs := digits.toList
        String.ofList (cs.take point.toNat) ++ "." ++ String.ofList (cs.drop point.toNat)
    else
      let rest := digits.toList.drop 1
      String.ofList (digits.toList.take 1) ++
        (if rest.isEmpty then "" else "." ++ String.ofList rest) ++ exponentText (point - 1)
  (if d.negative then "-" else "") ++ body

end Decimal
end Conform
