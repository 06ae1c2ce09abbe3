import Conform.Relation
import Conform.Value.Basic

namespace Conform

/-- Why an operation on values could not be carried out. -/
inductive Fault where
  | unordered (relation : Relation) (left right : Form)
  | noLength (form : Form)
  | notIterable (form : Form)
  | unhashable (form : Form)
  | notCallable (form : Form)
  | notText (form : Form)
  | notUnpackable (form : Form)
  | tooFewItems (expected found : Nat)
  | tooManyItems (expected : Nat)
  | joined (index : Nat) (form : Form)
  | nameNotText (form : Form)
  | numberTooLong
  | raised (message : String)
deriving DecidableEq

def Fault.message : Fault → String
  | .unordered relation left right =>
    s!"'{relation.symbol}' not supported between instances of '{left.name}' and '{right.name}'"
  | .noLength form => s!"object of type '{form.name}' has no len()"
  | .notIterable form => s!"'{form.name}' object is not iterable"
  | .unhashable form => s!"unhashable type: '{form.name}'"
  | .notCallable form => s!"'{form.name}' object is not callable"
  | .notText form => s!"expected string or bytes-like object, got '{form.name}'"
  | .notUnpackable form => s!"cannot unpack non-iterable {form.name} object"
  | .tooFewItems expected found =>
    s!"not enough values to unpack (expected {expected}, got {found})"
  | .tooManyItems expected => s!"too many values to unpack (expected {expected})"
  | .joined index form => s!"sequence item {index}: expected str instance, {form.name} found"
  | .nameNotText form => s!"__str__ returned non-string (type {form.name})"
  | .numberTooLong =>
    "Exceeds the limit (4300 digits) for integer string conversion; " ++
      "use sys.set_int_max_str_digits() to increase the limit"
  | .raised message => message

end Conform
