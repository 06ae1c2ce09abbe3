import Conform.Descriptor.Name
import Conform.Pattern.Error

namespace Conform

/-- The numbered codes of the refusals. -/
inductive Code where
  | duplicateFormat
  | unknownFormat
  | enumLengthMismatch
  | unsupportedSchema
  | invalidInput
  | invalidValue
deriving DecidableEq

namespace Code

def all : List Code :=
  [.duplicateFormat, .unknownFormat, .enumLengthMismatch, .unsupportedSchema, .invalidInput,
    .invalidValue]

def name : Code → String
  | .duplicateFormat => "DUPLICATE_FORMAT"
  | .unknownFormat => "UNKNOWN_FORMAT"
  | .enumLengthMismatch => "ENUM_LENGTH_MISMATCH"
  | .unsupportedSchema => "UNSUPPORTED_SCHEMA"
  | .invalidInput => "INVALID_INPUT"
  | .invalidValue => "INVALID_VALUE"

def number : Code → Nat
  | .duplicateFormat => 1
  | .unknownFormat => 2
  | .enumLengthMismatch => 3
  | .unsupportedSchema => 4
  | .invalidInput => 5
  | .invalidValue => 6

end Code

/-- Why something that should be a pattern is none. -/
inductive PatternFault where
  | unread (source : String) (error : Pattern.Error)
  | notText
  | fault (fault : Fault)

def PatternFault.message : PatternFault → String
  | .unread source e => e.message source
  | .notText => "first argument must be string or compiled pattern"
  | .fault f => f.message

/-- Text is read as a pattern; of other values those that cannot be hashed are refused as such. -/
def Pattern.ofValue (v : Value) : Except PatternFault Pattern :=
  match v with
  | .text source => (Pattern.ofSource source).mapError (.unread source)
  | v =>
    match v.hashable with
    | .ok _ => .error .notText
    | .error f => .error (.fault f)

/-- What is wrong with a node of a schema, where more can be said than that it is unsupported. -/
inductive Reason where
  | kinds
  | pattern (fault : PatternFault)
  | properties
  | items

def Reason.message : Reason → String
  | .kinds =>
    "type must list kinds from [" ++
      ", ".intercalate (Kind.all.map fun kind => Text.quoted kind.name) ++ "]"
  | .pattern fault => "invalid pattern: " ++ fault.message
  | .properties => "properties must be an object"
  | .items => "items must be an object or an array"

/-- Refusals have codes; the other errors are faults in the use of values. -/
inductive Error where
  | duplicateFormat (name : Value)
  | unknownFormat (name : Value)
  | enumLengthMismatch (node : Value)
  | unsupportedSchema (node : Value) (reason : Option Reason)
  | invalidInput (input : Value)
  | invalidValue (value : Value) (type : Descriptor)
  | uncallableFormat (name : Value)
  | pattern (fault : PatternFault)
  | fault (fault : Fault)

namespace Error

def code? : Error → Option Code
  | .duplicateFormat _ => some .duplicateFormat
  | .unknownFormat _ => some .unknownFormat
  | .enumLengthMismatch _ => some .enumLengthMismatch
  | .unsupportedSchema _ _ => some .unsupportedSchema
  | .invalidInput _ => some .invalidInput
  | .invalidValue _ _ => some .invalidValue
  | .uncallableFormat _ => none
  | .pattern _ => none
  | .fault _ => none

/-- The written form of what a node has under a keyword. -/
def under (node : Value) (keyword : String) : Except Fault String :=
  ((node.get? keyword).getD .null).written

/-- The message without the code. What it tells of may be impossible to write. -/
def detail : Error → Except Fault String
  | .duplicateFormat name => do
    pure ("duplicated format '" ++ (← name.plain) ++ "'")
  | .unknownFormat name => do
    pure ("missing format '" ++ (← name.plain) ++ "', use `register_format` to add it")
  | .enumLengthMismatch node => do
    let names ← under node "enumNames"
    let values ← under node "enum"
    pure ("enumNames " ++ names ++ " and enum " ++ values ++ " of unequal length")
  | .unsupportedSchema node none => do
    pure ("unsupported json schema " ++ (← node.written))
  | .unsupportedSchema node (some reason) => do
    pure ("unsupported json schema " ++ (← node.written) ++ ": " ++ reason.message)
  | .invalidInput input => do
    pure ("schema must be an object, got " ++ input.form.name ++ ": " ++ (← input.written))
  | .invalidValue v t => do
    let value ← v.written
    let type ← t.text
    pure ("Invalid value " ++ value ++ " supplied to " ++ type)
  | .uncallableFormat name => do
    pure ("format predicate for '" ++ (← name.plain) ++ "' must be callable")
  | .pattern f => .ok f.message
  | .fault f => .ok f.message

def message (e : Error) : Except Fault String := do
  let detail ← e.detail
  match e.code? with
  | some code => pure ("[" ++ code.name ++ "] " ++ detail)
  | none => pure detail

/-- An error is raised with its message. If that cannot be written, the fault in writing it is
raised in place of the error. -/
def raised (e : Error) : Error :=
  match e.detail with
  | .ok _ => e
  | .error f => .fault f

end Error
end Conform
