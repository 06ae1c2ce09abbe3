import Conform.Descriptor.Check
import Conform.Error

namespace Conform.Descriptor

/-- The message tells of the value and of the type, and both may be impossible to write. -/
def refuse {α : Type} (t : Descriptor) (v : Value) : Except Error α :=
  .error (.raised (.invalidValue v t))

/-- The value itself, if it conforms. -/
def conform (host : Host) (t : Descriptor) (v : Value) : Traced Call Error Value := do
  if ← (t.check host v).mapError .fault then pure v else .lift (t.refuse v)

/-- The label of a value that is a member. -/
def label (members : List (Value × Value)) (v : Value) : Except Error Value :=
  match memberLabel? members v with
  | some l => .ok l
  | none => (enumeration members).refuse v

end Conform.Descriptor
