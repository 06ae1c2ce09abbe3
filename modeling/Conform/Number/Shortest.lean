import Conform.Number.Binary64

namespace Conform.Binary64

/-- Whether `a * 2 ^ x ≤ b * 10 ^ y`. -/
def binaryLeDecimal (a : Nat) (x : Int) (b : Nat) (y : Int) : Bool :=
  a * Nat.pow 2 x.toNat * Nat.pow 10 (-y).toNat ≤ b * Nat.pow 10 y.toNat * Nat.pow 2 (-x).toNat

/-- Whether `b * 10 ^ y ≤ a * 2 ^ x`. -/
def decimalLeBinary (b : Nat) (y : Int) (a : Nat) (x : Int) : Bool :=
  b * Nat.pow 10 y.toNat * Nat.pow 2 (-x).toNat ≤ a * Nat.pow 2 x.toNat * Nat.pow 10 (-y).toNat

/-- The largest `n` with `n * 10 ^ y ≤ a * 2 ^ x`. -/
def decimalFloor (a : Nat) (x y : Int) : Nat :=
  (a * Nat.pow 2 x.toNat * Nat.pow 10 (-y).toNat) / (Nat.pow 10 y.toNat * Nat.pow 2 (-x).toNat)

/-- The numbers that round to `mantissa * 2 ^ exponent` lie between `low` and `high`, both in units
of `2 ^ (exponent - 2)`; the ends round to it too when the mantissa is even. -/
structure Neighbourhood where
  low : Nat
  centre : Nat
  high : Nat
  unit : Int
  closed : Bool

/-- Below a power of two the representable numbers lie twice as close, save for the smallest ones.
-/
def neighbourhood (mantissa : Nat) (exponent : Int) : Neighbourhood :=
  let reach := if mantissa = Nat.pow 2 52 && -1074 < exponent then 1 else 2
  { low := 4 * mantissa - reach
    centre := 4 * mantissa
    high := 4 * mantissa + 2
    unit := exponent - 2
    closed := mantissa % 2 == 0 }

def Neighbourhood.holds (n : Neighbourhood) (digits : Nat) (k : Int) : Bool :=
  if n.closed then
    binaryLeDecimal n.low n.unit digits k && decimalLeBinary digits k n.high n.unit
  else
    !decimalLeBinary digits k n.low n.unit && !binaryLeDecimal n.high n.unit digits k

/-- The multiple of `10 ^ k` nearest to the centre, if one of its two neighbours on that grid is in
the neighbourhood; a tie goes to the even one. -/
def Neighbourhood.onGrid? (n : Neighbourhood) (k : Int) : Option Nat :=
  let a := decimalFloor n.centre n.unit k
  match n.holds a k, n.holds (a + 1) k with
  | true, false => some a
  | false, true => some (a + 1)
  | false, false => none
  | true, true =>
    let twice := 2 * a + 1
    if decimalLeBinary twice k (2 * n.centre) n.unit then
      if binaryLeDecimal (2 * n.centre) n.unit twice k then some (a + a % 2) else some (a + 1)
    else some a

/-- Tries ever finer grids: the first one that is hit has the fewest digits. -/
def Neighbourhood.search (n : Neighbourhood) : Nat → Int → Nat × Int
  | 0, k => (decimalFloor n.centre n.unit k, k)
  | fuel + 1, k =>
    match n.onGrid? k with
    | some digits => (digits, k)
    | none => n.search fuel (k - 1)

/-- Starts at a power of ten above the number; a little over seventeen places further down every
grid is finer than the neighbourhood. -/
def shortest (negative : Bool) (mantissa : Nat) (exponent : Int) : Decimal :=
  if mantissa = 0 then ⟨negative, 0, 0⟩
  else
    let start := (exponent + mantissa.log2 + 1) * 30103 / 100000 + 1
    let (digits, k) := (neighbourhood mantissa exponent).search 40 start
    ⟨negative, digits, k⟩

/-- The written form of a number. -/
def text : Binary64 → String
  | .nan => "nan"
  | .infinite negative => if negative then "-inf" else "inf"
  | .finite negative m e => (shortest negative m e).text

end Conform.Binary64
