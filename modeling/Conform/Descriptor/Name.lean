import Conform.Descriptor.Basic

namespace Conform.Descriptor

/-- The texts among names, provided all of them are; `index` is the place of the first. -/
def texts (index : Nat) : List Value → Except Fault (List String)
  | [] => .ok []
  | .text s :: rest => do
    let more ← texts (index + 1) rest
    pure (s :: more)
  | v :: _ => .error (.joined index v.form)

def joined (separator : String) (names : List Value) : Except Fault String := do
  let parts ← texts 0 names
  pure (separator.intercalate parts)

mutual

/-- A struct goes by the name it was given, whatever value that is. Tuples and unions can only be
named if all their parts have texts for names; the other types write the names of their parts out.
-/
def name : Descriptor → Except Fault Value
  | .any => .ok (.text "Any")
  | .primitive kind => .ok (.text kind.label)
  | .enumeration members => do
    let parts ← members.mapM fun m => m.1.written
    pure (.text ("Enums(" ++ ", ".intercalate parts ++ ")"))
  | .refined base p => do
    let inner ← (← base.name).plain
    let constraint ← p.text
    pure (.text ("Refined(" ++ inner ++ ", " ++ constraint ++ ")"))
  | .maybe type => do
    let inner ← (← type.name).plain
    pure (.text ("?" ++ inner))
  | .struct fields given =>
    if given.truthy then .ok given
    else do
      let parts ← fieldNames fields
      pure (.text ("\x7b" ++ ", ".intercalate parts ++ "\x7d"))
  | .list element => do
    let inner ← (← element.name).plain
    pure (.text ("[" ++ inner ++ "]"))
  | .tuple elements => do
    let inner ← joined ", " (← names elements)
    pure (.text ("(" ++ inner ++ ")"))
  | .union branches => do
    let inner ← joined " | " (← names branches)
    pure (.text inner)

def names : List Descriptor → Except Fault (List Value)
  | [] => .ok []
  | t :: ts => do
    let first ← t.name
    let rest ← names ts
    pure (first :: rest)

def fieldNames : List (String × Descriptor) → Except Fault (List String)
  | [] => .ok []
  | (key, t) :: fields => do
    let first ← (← t.name).plain
    let rest ← fieldNames fields
    pure ((key ++ ": " ++ first) :: rest)

end

/-- A type as it stands in messages. -/
def text (t : Descriptor) : Except Fault String := do
  match ← t.name with
  | .text s => pure s
  | v => .error (.nameNotText v.form)

/-- The word that goes with the name in the summary of a type. -/
def title : Descriptor → String
  | .any => "AnyType"
  | .primitive _ => "PrimitiveType"
  | .enumeration _ => "EnumType"
  | .refined _ _ => "RefinedType"
  | .maybe _ => "MaybeType"
  | .struct _ _ => "StructType"
  | .list _ => "ListType"
  | .tuple _ => "TupleType"
  | .union _ => "UnionType"

def summary (t : Descriptor) : Except Fault String := do
  let name ← (← t.name).plain
  pure ("<" ++ t.title ++ " " ++ name ++ ">")

end Conform.Descriptor
