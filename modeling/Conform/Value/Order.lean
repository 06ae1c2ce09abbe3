import Conform.Fault
import Conform.Value.Equality

namespace Conform.Value

mutual

/-- Numbers are ordered by quantity and texts by code point; sequences of one form by the first
items that are not loosely equal, or else by length. -/
def compare (relation : Relation) : Value → Value → Except Fault Bool
  | .text s, .text t => .ok (relation.holds (· < ·) (· ≤ ·) s t)
  | .list xs, .list ys => compareItems relation xs ys
  | .tuple xs, .tuple ys => compareItems relation xs ys
  | a, b =>
    match a.quantity?, b.quantity? with
    | some x, some y => .ok (relation.holds Quantity.less Quantity.atMost x y)
    | _, _ => .error (.unordered relation a.form b.form)

def compareItems (relation : Relation) : List Value → List Value → Except Fault Bool
  | x :: xs, y :: ys => if x.looseEq y then compareItems relation xs ys else compare relation x y
  | xs, ys => .ok (relation.holds (· < ·) (· ≤ ·) xs.length ys.length)

end

end Conform.Value
