import Conform.Value.Basic

namespace Conform

/-- What a schema can ask for. -/
inductive Kind where
  | null
  | string
  | number
  | integer
  | boolean
  | object
  | array
deriving DecidableEq

namespace Kind

def all : List Kind :=
  [.null, .string, .number, .integer, .boolean, .object, .array]

/-- The word for a kind in schemas. -/
def name : Kind → String
  | .null => "null"
  | .string => "string"
  | .number => "number"
  | .integer => "integer"
  | .boolean => "boolean"
  | .object => "object"
  | .array => "array"

/-- The word for a kind in names of types. -/
def label : Kind → String
  | .null => "Null"
  | .string => "Str"
  | .number => "Num"
  | .integer => "Int"
  | .boolean => "Bool"
  | .object => "Obj"
  | .array => "Arr"

/-- The kind that a value names, which only a text can do. -/
def named? : Value → Option Kind
  | .text s => all.find? fun kind => kind.name == s
  | _ => none

/-- A boolean is no number, and a whole number may be written with a fraction of zero. -/
def accepts : Kind → Value → Bool
  | .null, .null => true
  | .string, .text _ => true
  | .number, .int _ => true
  | .number, .float _ => true
  | .integer, .int _ => true
  | .integer, .float x => x.quantity.isWhole
  | .boolean, .bool _ => true
  | .object, .object _ => true
  | .array, .list _ => true
  | .array, .tuple _ => true
  | _, _ => false

end Kind
end Conform
