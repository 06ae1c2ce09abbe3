import Conform.Descriptor.Check
import Conform.Registry
import Conform.Proofs.Outcomes

namespace Conform

/-- What a part of a schema demands of a value. -/
abbrev Test := Value → Check Bool

/-- The demands of a node's parts; a property comes with its key and its schema. -/
structure Parts where
  properties : List (String × Value × Test)
  items : Option (Test ⊕ List Test)

namespace Schema

section

variable (entries : List (String × Value))

def whenGiven (keyword : String) (test : Test) : List (Check Bool) :=
  (entries.lookup keyword).toList.map test

def isSet (keyword : String) : Bool :=
  (entries.lookup keyword).any Value.truthy

/-- The further tests are made of values of the kind only. -/
def ofKind (kind : Kind) (v : Value) (tests : List (Check Bool)) : Check Bool :=
  if kind.accepts v then Traced.inOrder tests else pure false

def bounds (v : Value) : List (Check Bool) :=
  whenGiven entries "minimum" (fun limit =>
    .lift (v.compare (if isSet entries "exclusiveMinimum" then .greater else .atLeast) limit)) ++
  whenGiven entries "maximum" (fun limit =>
    .lift (v.compare (if isSet entries "exclusiveMaximum" then .less else .atMost) limit))

def counts (least most : String) (v : Value) : List (Check Bool) :=
  whenGiven entries least (fun limit => .lift (Predicate.compareLength .atLeast v limit)) ++
  whenGiven entries most (fun limit => .lift (Predicate.compareLength .atMost v limit))

def whenSet (keyword : String) (test : Check Bool) : List (Check Bool) :=
  if isSet entries keyword then [test] else []

/-- Whether the pattern occurs in the text. -/
def search : Value → Value → Check Bool
  | .text source, .text s =>
    match Pattern.ofSource source with
    | .ok p => pure (p.occursIn s)
    | .error _ => pure false
  | _, _ => pure false

/-- The answer of the format's function, which is called with the text. -/
def inFormat (formats : Registry) (host : Host) (v name : Value) : Check Bool :=
  match formats.find? name with
  | some handle => Value.truthy <$> (Callee.function handle).call host v
  | none => pure false

def isMember (values v : Value) : Bool :=
  (values.elements?.getD []).any v.documentEq

/-- With members given, nothing else counts. -/
def orMember (v : Value) (otherwise : Check Bool) : Check Bool :=
  match entries.lookup "enum" with
  | some values => pure (isMember values v)
  | none => otherwise

def required : List Value :=
  match entries.lookup "required" with
  | some names => if names.truthy then names.elements?.getD [] else []
  | none => []

/-- A property that needs a value: it is named so, or it is a boolean and nothing besides. -/
def isMandatory (key : String) (s : Value) : Bool :=
  (required entries).any (·.looseEq (.text key)) ||
    (s.get? "type").bind Kind.named? = some .boolean

/-- Other properties may be missing, and may be null. -/
def property (given : List (String × Value)) : String × Value × Test → Check Bool
  | (key, s, test) =>
    match given.lookup key with
    | none => pure (!isMandatory entries key s)
    | some v => if !isMandatory entries key s && v.isNull then pure true else test v

def object (parts : Parts) : Value → Check Bool
  | .object given => Traced.all (property entries given) parts.properties
  | _ => pure false

/-- One test for all items, or as many tests as there are items. -/
def items (parts : Parts) (items : List Value) : Check Bool :=
  match parts.items with
  | none => pure true
  | some (.inl test) => Traced.all test items
  | some (.inr tests) =>
    if items.length = tests.length then
      Traced.inOrder (List.zipWith (fun test item => test item) tests items)
    else pure false

def array (parts : Parts) (v : Value) : Check Bool :=
  match v.items? with
  | some given =>
    Traced.inOrder (items parts given :: counts entries "minItems" "maxItems" v ++
      whenSet entries "uniqueItems"
        (pure (decide (given.Pairwise fun x y => x.documentEq y = false))))
  | none => pure false

/-- What a node demands as one kind. -/
def asKind (formats : Registry) (host : Host) (parts : Parts) (v : Value) : Kind → Check Bool
  | .string =>
    orMember entries v <| ofKind .string v <|
      counts entries "minLength" "maxLength" v ++ whenGiven entries "pattern" (search · v) ++
        whenGiven entries "format" (inFormat formats host v)
  | .number =>
    orMember entries v <| ofKind .number v <|
      bounds entries v ++ whenSet entries "integer" (pure (Kind.integer.accepts v))
  | .integer => orMember entries v (ofKind .integer v (bounds entries v))
  | .object => object entries parts v
  | .array => array entries parts v
  | kind => pure (kind.accepts v)

def named (formats : Registry) (host : Host) (parts : Parts) (v name : Value) : Check Bool :=
  match Kind.named? name with
  | some kind => asKind entries formats host parts v kind
  | none => pure false

/-- The kinds of a list are tried in order on the same node. -/
def node (formats : Registry) (host : Host) (parts : Parts) (v : Value) : Check Bool :=
  match entries.lookup "type" with
  | none => pure true
  | some (.list names) => Traced.any (named entries formats host parts v) names
  | some name => named entries formats host parts v name

end

end Schema

mutual

/-- Whether a value is valid, read off the schema itself. What is no schema allows nothing. -/
def validate (formats : Registry) (host : Host) : Value → Test
  | .object entries =>
    Schema.node entries formats host
      { properties := propertyTests formats host entries
        items := itemTests formats host entries }
  | _ => fun _ => pure false

def propertyTests (formats : Registry) (host : Host) :
    List (String × Value) → List (String × Value × Test)
  | [] => []
  | (keyword, v) :: rest =>
    if keyword = "properties" then
      match v with
      | .object properties => fieldTests formats host properties
      | _ => []
    else propertyTests formats host rest

def itemTests (formats : Registry) (host : Host) :
    List (String × Value) → Option (Test ⊕ List Test)
  | [] => none
  | (keyword, v) :: rest =>
    if keyword = "items" then
      let single := validate formats host v
      match v with
      | .object _ => some (.inl single)
      | .list schemas => some (.inr (positionTests formats host schemas))
      | _ => none
    else itemTests formats host rest

def fieldTests (formats : Registry) (host : Host) :
    List (String × Value) → List (String × Value × Test)
  | [] => []
  | (key, s) :: rest => (key, s, validate formats host s) :: fieldTests formats host rest

def positionTests (formats : Registry) (host : Host) : List Value → List Test
  | [] => []
  | s :: rest => validate formats host s :: positionTests formats host rest

end

namespace Schema

/-- The demands of the parts that a node has. -/
def parts (formats : Registry) (host : Host) (entries : List (String × Value)) : Parts where
  properties := propertyTests formats host entries
  items := itemTests formats host entries

theorem parts_properties (formats : Registry) (host : Host) (entries : List (String × Value)) :
    (parts formats host entries).properties =
      match entries.lookup "properties" with
      | some (.object properties) => fieldTests formats host properties
      | _ => [] := by
  show propertyTests formats host entries = _
  induction entries with
  | nil => rfl
  | cons entry rest ih =>
    obtain ⟨keyword, v⟩ := entry
    by_cases hk : keyword = "properties"
    · subst hk
      rw [List.lookup_cons_self]
      cases v <;> simp only [propertyTests, if_true]
    · rw [List.lookup_cons, beq_false_of_ne (Ne.symm hk), ← ih]
      cases v <;> simp only [propertyTests, if_neg hk]

theorem parts_items (formats : Registry) (host : Host) (entries : List (String × Value)) :
    (parts formats host entries).items =
      match entries.lookup "items" with
      | some (.object item) => some (.inl (validate formats host (.object item)))
      | some (.list schemas) => some (.inr (positionTests formats host schemas))
      | _ => none := by
  show itemTests formats host entries = _
  induction entries with
  | nil => rfl
  | cons entry rest ih =>
    obtain ⟨keyword, v⟩ := entry
    by_cases hk : keyword = "items"
    · subst hk
      rw [List.lookup_cons_self]
      cases v <;> simp only [itemTests, if_true]
    · rw [List.lookup_cons, beq_false_of_ne (Ne.symm hk), ← ih]
      cases v <;> simp only [itemTests, if_neg hk]

theorem positionTests_eq_map (formats : Registry) (host : Host) (schemas : List Value) :
    positionTests formats host schemas = schemas.map (validate formats host) := by
  induction schemas with
  | nil => rfl
  | cons s rest ih =>
    rw [List.map_cons, ← ih]
    rfl

theorem fieldTests_eq_map (formats : Registry) (host : Host)
    (properties : List (String × Value)) : fieldTests formats host properties =
      properties.map fun p => (p.1, p.2, validate formats host p.2) := by
  induction properties with
  | nil => rfl
  | cons p rest ih =>
    rw [List.map_cons, ← ih]
    rfl

/-- Whether a node lists a key among the required ones. -/
def names (entries : List (String × Value)) (key : String) : Bool :=
  (required entries).any (·.looseEq (.text key))

theorem names_iff {entries : List (String × Value)} {key : String} :
    names entries key = true ↔ .text key ∈ required entries := by
  have eq : ∀ v : Value, v.looseEq (.text key) = true ↔ v = .text key := by
    intro v
    cases v <;> simp [Value.looseEq, Value.equalQuantity, Value.quantity?]
  simp only [names, List.any_eq_true, eq, exists_eq_right]

end Schema
end Conform
