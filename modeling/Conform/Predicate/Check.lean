import Conform.Kind
import Conform.Predicate.Basic
import Conform.Traced
import Conform.Value.Order

namespace Conform

structure Call where
  handle : String
  argument : Value

/-- A test with the calls it makes. -/
abbrev Check := Traced Call Fault

/-- What the format functions answer, by handle and argument. -/
abbrev Host := String → Value → Except Fault Value

/-- The call is on record even if the function gives up. -/
def Callee.call (host : Host) (argument : Value) : Callee → Check Value
  | .function handle => ⟨[⟨handle, argument⟩], host handle argument⟩
  | .value v => .fail (.notCallable v.form)

/-- No two positions hold values that are equal as documents. -/
def allDistinct : List Value → Bool
  | [] => true
  | x :: xs => xs.all (fun y => !x.documentEq y) && allDistinct xs

namespace Predicate

/-- Compares the length of a value with a limit that may be any value. -/
def compareLength (relation : Relation) (v limit : Value) : Except Fault Bool := do
  let n ← v.length
  Value.compare relation (.int n) limit

/-- The right part of a conjunction is tested only if the left one holds. -/
def check (host : Host) : Predicate → Value → Check Bool
  | .minLength least, v => .lift (compareLength .atLeast v least)
  | .maxLength most, v => .lift (compareLength .atMost v most)
  | .pattern p, .text s => pure (p.occursIn s)
  | .pattern _, v => .fail (.notText v.form)
  | .format _ callee, v => Value.truthy <$> callee.call host v
  | .bound relation limit, v => .lift (v.compare relation limit)
  | .whole, v => pure (Kind.integer.accepts v)
  | .distinct, v => .lift (allDistinct <$> v.elements)
  | .both left right, v => do if ← left.check host v then right.check host v else pure false

end Predicate
end Conform
