import Conform.Registry
import Conform.Traced

namespace Conform

abbrev Compile := Traced Report Error

/-- A node of a schema, with what its parts compile to if they are looked at. -/
structure Node where
  entries : List (String × Value)
  properties : Compile (List (String × Descriptor))
  items : Option (Compile Descriptor)

namespace Node

def value (n : Node) : Value :=
  .object n.entries

def get? (n : Node) (keyword : String) : Option Value :=
  n.entries.lookup keyword

def isSet (n : Node) (keyword : String) : Bool :=
  ((n.get? keyword).map Value.truthy).getD false

def unsupported {α : Type} (n : Node) (reason : Reason) : Except Error α :=
  .error (.raised (.unsupportedSchema n.value (some reason)))

/-- Labels go with values by position. -/
def enumeration (n : Node) (values : Value) : Except Error Descriptor :=
  match n.get? "enumNames" with
  | none => (Descriptor.enumerationOf values).mapError .fault
  | some names => do
    let k ← values.length.mapError .fault
    let l ← names.length.mapError .fault
    if k = l then
      let members ← values.elements.mapError .fault
      let labels ← names.elements.mapError .fault
      pure (.enumeration (members.zip labels))
    else throw (.raised (.enumLengthMismatch n.value))

/-- A pattern's own mistakes are laid to the node; limits met while reading it are not. -/
def pattern (n : Node) (source : Value) : Except Error Predicate :=
  match Pattern.ofValue source with
  | .ok p => .ok (.pattern p)
  | .error (.unread s (.malformed issue position)) =>
    n.unsupported (.pattern (.unread s (.malformed issue position)))
  | .error (.unread s e) => .error (.pattern (.unread s e))
  | .error fault => n.unsupported (.pattern fault)

/-- Adds the predicate that a keyword gives rise to, if it is there. -/
def adding (n : Node) (keyword : String) (make : Value → Except Error Predicate)
    (gathered : Option Predicate) : Except Error (Option Predicate) :=
  match n.get? keyword with
  | none => .ok gathered
  | some v => do
    let p ← make v
    pure (some (Predicate.conjoin gathered p))

def addingFlag (n : Node) (keyword : String) (p : Predicate) (gathered : Option Predicate) :
    Option Predicate :=
  if n.isSet keyword then some (Predicate.conjoin gathered p) else gathered

end Node

def Descriptor.refine (base : Descriptor) : Option Predicate → Descriptor
  | none => base
  | some p => .refined base p

namespace Node

def format (formats : Registry) (name : Value) : Except Error Predicate := do
  let handle ← formats.get name
  pure (.format name (.function handle))

def string (formats : Registry) (n : Node) : Except Error Descriptor :=
  match n.get? "enum" with
  | some values => n.enumeration values
  | none => do
    let p ← n.adding "minLength" (fun v => pure (.minLength v)) none
    let p ← n.adding "maxLength" (fun v => pure (.maxLength v)) p
    let p ← n.adding "pattern" n.pattern p
    let p ← n.adding "format" (format formats) p
    pure (Descriptor.refine (.primitive .string) p)

def bounds (n : Node) : Except Error (Option Predicate) := do
  let lower := if n.isSet "exclusiveMinimum" then .greater else .atLeast
  let upper := if n.isSet "exclusiveMaximum" then .less else .atMost
  let p ← n.adding "minimum" (fun v => pure (.bound lower v)) none
  n.adding "maximum" (fun v => pure (.bound upper v)) p

def number (n : Node) : Except Error Descriptor :=
  match n.get? "enum" with
  | some values => n.enumeration values
  | none => do
    let p ← n.bounds
    pure (Descriptor.refine (.primitive .number) (n.addingFlag "integer" .whole p))

def integer (n : Node) : Except Error Descriptor :=
  match n.get? "enum" with
  | some values => n.enumeration values
  | none => do
    let p ← n.bounds
    pure (Descriptor.refine (.primitive .integer) p)

/-- The names that must be given a value; they form a set, so all of them must be hashable. -/
def required (n : Node) : Except Error (List Value) := do
  match n.get? "required" with
  | none => pure []
  | some names =>
    if names.truthy then
      let names ← names.elements.mapError .fault
      (Value.hashableItems names).mapError .fault
      pure names
    else pure []

/-- Fields are optional unless they are required; a boolean always holds a value. -/
def field (required : List Value) (key : String) (type : Descriptor) : String × Descriptor :=
  match type with
  | .primitive .boolean => (key, type)
  | _ => (key, if required.any (·.looseEq (.text key)) then type else .maybe type)

def object (n : Node) : Compile Descriptor := do
  match n.get? "properties" with
  | none => pure (.primitive .object)
  | some (.object properties) =>
    if properties.isEmpty then pure (.primitive .object)
    else
      let required ← .lift n.required
      let types ← n.properties
      pure (.struct (types.map fun (key, type) => field required key type)
        ((n.get? "description").getD .null))
  | some v => if v.truthy then .lift (n.unsupported .properties) else pure (.primitive .object)

def array (n : Node) : Compile Descriptor := do
  let base ← match n.get? "items" with
    | none => pure (.primitive .array)
    | some _ =>
      match n.items with
      | some items => items
      | none => .lift (n.unsupported .items)
  let p ← .lift (n.adding "minItems" (fun v => pure (.minLength v)) none)
  let p ← .lift (n.adding "maxItems" (fun v => pure (.maxLength v)) p)
  pure (Descriptor.refine base (n.addingFlag "uniqueItems" .distinct p))

/-- What a node compiles to as one kind. -/
def asKind (formats : Registry) (n : Node) : Kind → Compile Descriptor
  | .null => pure (.primitive .null)
  | .boolean => pure (.primitive .boolean)
  | .string => .lift (n.string formats)
  | .number => .lift n.number
  | .integer => .lift n.integer
  | .object => n.object
  | .array => n.array

/-- The kinds in a list of names, provided there are some and all of them are kinds. -/
def kinds? (names : List Value) : Option (List Kind) :=
  if names.isEmpty then none else names.mapM Kind.named?

/-- A list of kinds makes a union of the same node as each of them. -/
def compile (formats : Registry) (n : Node) : Compile Descriptor :=
  match n.get? "type" with
  | none => pure .any
  | some type =>
    match Kind.named? type, type with
    | some kind, _ => do
      Traced.emit (.entering kind)
      n.asKind formats kind
    | none, .list names =>
      match kinds? names with
      | some kinds => do
        Traced.emit (.enteringUnion names)
        let branches ← kinds.mapM (n.asKind formats)
        pure (.union branches)
      | none => .lift (n.unsupported .kinds)
    | none, _ => .fail (.raised (.unsupportedSchema n.value none))

end Node

mutual

/-- The type that a schema describes. A node is entered before its parts, and the first error ends
the work. -/
def compile (formats : Registry) : Value → Compile Descriptor
  | .object entries =>
    Node.compile formats
      { entries := entries
        properties := compileProperties formats entries
        items := compileItems formats entries }
  | v => .fail (.raised (.invalidInput v))

/-- The types of a node's properties. -/
def compileProperties (formats : Registry) :
    List (String × Value) → Compile (List (String × Descriptor))
  | [] => pure []
  | (keyword, v) :: rest =>
    if keyword = "properties" then
      match v with
      | .object properties => compileFields formats properties
      | _ => pure []
    else compileProperties formats rest

/-- The types of a node's items, if they are given by a schema or by a list of schemas. -/
def compileItems (formats : Registry) : List (String × Value) → Option (Compile Descriptor)
  | [] => none
  | (keyword, v) :: rest =>
    if keyword = "items" then
      let single := compile formats v
      match v with
      | .object _ => some (.list <$> single)
      | .list schemas => some (.tuple <$> compileAll formats schemas)
      | _ => none
    else compileItems formats rest

def compileFields (formats : Registry) :
    List (String × Value) → Compile (List (String × Descriptor))
  | [] => pure []
  | (key, v) :: rest => do
    let type ← compile formats v
    let types ← compileFields formats rest
    pure ((key, type) :: types)

def compileAll (formats : Registry) : List Value → Compile (List Descriptor)
  | [] => pure []
  | v :: rest => do
    let type ← compile formats v
    let types ← compileAll formats rest
    pure (type :: types)

end

end Conform
