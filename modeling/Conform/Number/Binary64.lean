import Conform.Number.Decimal
import Conform.Number.Quantity

namespace Conform

/-- A finite one is `mantissa * 2 ^ exponent`, negated if asked; zero keeps its sign. -/
inductive Binary64 where
  | nan
  | infinite (negative : Bool)
  | finite (negative : Bool) (mantissa : Nat) (exponent : Int)
deriving DecidableEq

namespace Binary64

def rational (mantissa : Int) (exponent : Int) : Rat :=
  if 0 ≤ exponent then ((mantissa * (Nat.pow 2 exponent.toNat : Nat) : Int) : Rat)
  else mkRat mantissa (Nat.pow 2 (-exponent).toNat)

def quantity : Binary64 → Quantity
  | .nan => .undefined
  | .infinite negative => if negative then .below else .above
  | .finite negative m e => .exact (rational (if negative then -(m : Int) else m) e)

def isZero : Binary64 → Bool
  | .finite _ m _ => m == 0
  | _ => false

/-- The quotient rounded to the nearest natural number, a tie going to the even one. -/
def nearest (num den : Nat) : Nat :=
  let q := num / den
  let r := num % den
  if 2 * r < den then q else if den < 2 * r then q + 1 else q + q % 2

/-- The exponent of the highest power of two that is at most `num / den`. -/
def leading (num den : Nat) : Int :=
  let l : Int := (num.log2 : Int) - den.log2
  let fits :=
    if 0 ≤ l then decide (den * Nat.pow 2 l.toNat ≤ num)
    else decide (den ≤ num * Nat.pow 2 (-l).toNat)
  if fits then l else l - 1

/-- The nearest representable number: 53 bits, the last of them worth at least `2 ^ -1074`, and an
infinity from `2 ^ 1024` on. -/
def ofRatio (negative : Bool) (num den : Nat) : Binary64 :=
  if num = 0 then .finite negative 0 (-1074)
  else
    let e := max (leading num den - 52) (-1074)
    let m :=
      if 0 ≤ e then nearest num (den * Nat.pow 2 e.toNat)
      else nearest (num * Nat.pow 2 (-e).toNat) den
    let (m, e) := if m = Nat.pow 2 53 then (Nat.pow 2 52, e + 1) else (m, e)
    if 971 < e then .infinite negative else .finite negative m e

def ofDecimal (d : Decimal) : Binary64 :=
  if 0 ≤ d.exponent then ofRatio d.negative (d.digits * Nat.pow 10 d.exponent.toNat) 1
  else ofRatio d.negative d.digits (Nat.pow 10 (-d.exponent).toNat)

def ofText? (s : String) : Option Binary64 :=
  if s = "nan" then some .nan
  else if s = "inf" then some (.infinite false)
  else if s = "-inf" then some (.infinite true)
  else (Decimal.ofText? s).map ofDecimal

end Binary64
end Conform
