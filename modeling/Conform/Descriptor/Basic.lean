import Conform.Kind
import Conform.Predicate.Basic

namespace Conform

/-- A type as data. A field whose type is `maybe` is optional. The name of a struct is null if it
has none. -/
inductive Descriptor where
  | any
  | primitive (kind : Kind)
  | enumeration (members : List (Value × Value))
  | refined (base : Descriptor) (predicate : Predicate)
  | maybe (type : Descriptor)
  | struct (fields : List (String × Descriptor)) (name : Value)
  | list (element : Descriptor)
  | tuple (elements : List Descriptor)
  | union (branches : List Descriptor)

namespace Descriptor

/-- Induction with one hypothesis for all fields of a struct, or all types in a row. -/
@[elab_as_elim, induction_eliminator]
theorem induct {P : Descriptor → Prop} (any : P .any) (primitive : ∀ kind, P (.primitive kind))
    (enumeration : ∀ members, P (.enumeration members))
    (refined : ∀ base p, P base → P (.refined base p)) (maybe : ∀ t, P t → P (.maybe t))
    (struct : ∀ fields name, (∀ f ∈ fields, P f.2) → P (.struct fields name))
    (list : ∀ t, P t → P (.list t)) (tuple : ∀ ts, (∀ t ∈ ts, P t) → P (.tuple ts))
    (union : ∀ ts, (∀ t ∈ ts, P t) → P (.union ts)) (t : Descriptor) : P t :=
  Descriptor.rec (motive_1 := P) (motive_2 := fun fields => ∀ f ∈ fields, P f.2)
    (motive_3 := fun ts => ∀ t ∈ ts, P t) (motive_4 := fun field => P field.2)
    any primitive enumeration refined maybe struct list tuple union
    (fun _ h => nomatch h) (fun _ _ first rest => List.forall_mem_cons.2 ⟨first, rest⟩)
    (fun _ h => nomatch h) (fun _ _ first rest => List.forall_mem_cons.2 ⟨first, rest⟩)
    (fun _ _ h => h) t

/-- The word for the form of a type. -/
def word : Descriptor → String
  | .any => "any"
  | .primitive _ => "primitive"
  | .enumeration _ => "enums"
  | .refined _ _ => "refined"
  | .maybe _ => "maybe"
  | .struct _ _ => "struct"
  | .list _ => "list"
  | .tuple _ => "tuple"
  | .union _ => "union"

def isMaybe : Descriptor → Bool
  | .maybe _ => true
  | _ => false

/-- Members that are their own labels. -/
def enumerationOf (values : Value) : Except Fault Descriptor := do
  let members ← values.elements
  pure (.enumeration (members.map fun v => (v, v)))

/-- Members and labels from a sequence of pairs. -/
def enumerationOfPairs (pairs : Value) : Except Fault Descriptor := do
  let members ← pairs.elements
  .enumeration <$> members.mapM Value.pair

def structOf (fields : List (String × Descriptor)) (name : Value) : Descriptor :=
  .struct (Entries.ofList fields) name

def required (fields : List (String × Descriptor)) : List String :=
  Entries.keys (fields.filter fun (_, type) => !type.isMaybe)

def optional (fields : List (String × Descriptor)) : List String :=
  Entries.keys (fields.filter fun (_, type) => type.isMaybe)

/-- One step from a type into a part of it. -/
inductive Step where
  | inner
  | base
  | field (key : String)
  | component (index : Nat)

def part? : Descriptor → Step → Option Descriptor
  | .maybe type, .inner => some type
  | .list element, .inner => some element
  | .refined base _, .base => some base
  | .struct fields _, .field key => fields.lookup key
  | .tuple elements, .component i => elements[i]?
  | .union branches, .component i => branches[i]?
  | _, _ => none

end Descriptor
end Conform
