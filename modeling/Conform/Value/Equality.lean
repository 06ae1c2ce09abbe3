import Conform.Value.Basic

namespace Conform.Value

/-- Equality of two numbers, a boolean counting as one; other values are never equal so. -/
def equalQuantity (a b : Value) : Bool :=
  match a.quantity?, b.quantity? with
  | some x, some y => x.equal y
  | _, _ => false

mutual

/-- A boolean can equal a number, and a list never equals a tuple. The order of keys does not
matter. -/
def looseEq : Value → Value → Bool
  | .null, .null => true
  | .text s, .text t => s == t
  | .list xs, .list ys => looseEqItems xs ys
  | .tuple xs, .tuple ys => looseEqItems xs ys
  | .object xs, .object ys => xs.length == ys.length && looseEqEntries xs ys
  | a, b => equalQuantity a b

def looseEqItems : List Value → List Value → Bool
  | [], [] => true
  | x :: xs, y :: ys => looseEq x y && looseEqItems xs ys
  | _, _ => false

/-- Every entry of the first object has an equal one in the second. -/
def looseEqEntries : List (String × Value) → List (String × Value) → Bool
  | [], _ => true
  | (key, x) :: xs, ys =>
    (match ys.lookup key with
      | some y => looseEq x y
      | none => false) && looseEqEntries xs ys

end

mutual

/-- A boolean never equals a number, and a list can equal a tuple. The order of keys does not
matter. -/
def documentEq : Value → Value → Bool
  | .bool a, .bool b => a == b
  | .bool _, _ => false
  | _, .bool _ => false
  | .object xs, .object ys =>
    ys.all (fun (key, _) => (xs.lookup key).isSome) && documentEqEntries xs ys
  | .list xs, .list ys => documentEqItems xs ys
  | .list xs, .tuple ys => documentEqItems xs ys
  | .tuple xs, .list ys => documentEqItems xs ys
  | .tuple xs, .tuple ys => documentEqItems xs ys
  | a, b => looseEq a b

def documentEqItems : List Value → List Value → Bool
  | [], [] => true
  | x :: xs, y :: ys => documentEq x y && documentEqItems xs ys
  | _, _ => false

/-- Every entry of the first object has an equal one in the second. -/
def documentEqEntries : List (String × Value) → List (String × Value) → Bool
  | [], _ => true
  | (key, x) :: xs, ys =>
    (match ys.lookup key with
      | some y => documentEq x y
      | none => false) && documentEqEntries xs ys

end

end Conform.Value
