import Conform.Entries
import Conform.Number.Binary64

namespace Conform

/-- A list and a tuple hold the same items and differ as values; object keys are distinct. -/
inductive Value where
  | null
  | bool (value : Bool)
  | int (value : Int)
  | float (value : Binary64)
  | text (value : String)
  | list (items : List Value)
  | tuple (items : List Value)
  | object (entries : List (String × Value))

/-- The eight forms a value takes. -/
inductive Form where
  | null
  | bool
  | int
  | float
  | text
  | list
  | tuple
  | object
deriving DecidableEq

/-- The word for a form in messages. -/
def Form.name : Form → String
  | .null => "NoneType"
  | .bool => "bool"
  | .int => "int"
  | .float => "float"
  | .text => "str"
  | .list => "list"
  | .tuple => "tuple"
  | .object => "dict"

namespace Value

def form : Value → Form
  | .null => .null
  | .bool _ => .bool
  | .int _ => .int
  | .float _ => .float
  | .text _ => .text
  | .list _ => .list
  | .tuple _ => .tuple
  | .object _ => .object

def isNull : Value → Bool
  | .null => true
  | _ => false

/-- A repeated key keeps its first place and takes its last value. -/
def ofPairs (pairs : List (String × Value)) : Value :=
  .object (Entries.ofList pairs)

/-- The value under a key of an object. -/
def get? (key : String) : Value → Option Value
  | .object entries => entries.lookup key
  | _ => none

/-- The items of a list or a tuple. -/
def items? : Value → Option (List Value)
  | .list items => some items
  | .tuple items => some items
  | _ => none

/-- The quantity of a number; a boolean counts as zero or one. -/
def quantity? : Value → Option Quantity
  | .bool b => some (.exact (if b then 1 else 0))
  | .int n => some (.exact n)
  | .float x => some x.quantity
  | _ => none

/-- False are null, `false`, zero and whatever is empty. -/
def truthy : Value → Bool
  | .null => false
  | .bool b => b
  | .int n => n != 0
  | .float x => !x.isZero
  | .text s => !s.isEmpty
  | .list items => !items.isEmpty
  | .tuple items => !items.isEmpty
  | .object entries => !entries.isEmpty

end Value
end Conform
