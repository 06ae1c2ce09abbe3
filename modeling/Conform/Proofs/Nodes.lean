import Conform.Proofs.Constraints
import Conform.Proofs.Values
import Mathlib.Logic.Relation

namespace Conform

/-- The schemas that a node has as parts, whether or not its kinds make use of them. -/
inductive Part (entries : List (String × Value)) : Value → Prop where
  | property {properties : List (String × Value)} {key : String} {s : Value}
      (given : entries.lookup "properties" = some (.object properties))
      (mem : (key, s) ∈ properties) : Part entries s
  | item {item : List (String × Value)} (given : entries.lookup "items" = some (.object item)) :
      Part entries (.object item)
  | position {items : List Value} {s : Value}
      (given : entries.lookup "items" = some (.list items)) (mem : s ∈ items) : Part entries s

theorem Part.sizeOf_lt {entries : List (String × Value)} {s : Value} (part : Part entries s) :
    sizeOf s < sizeOf (Value.object entries) := by
  cases part with
  | property given mem =>
    have outer := List.sizeOf_lt_of_mem (Entries.mem_of_lookup given)
    have inner := List.sizeOf_lt_of_mem mem
    simp only [Prod.mk.sizeOf_spec, Value.object.sizeOf_spec] at outer inner ⊢
    omega
  | item given =>
    have outer := List.sizeOf_lt_of_mem (Entries.mem_of_lookup given)
    simp only [Prod.mk.sizeOf_spec, Value.object.sizeOf_spec] at outer ⊢
    omega
  | position given mem =>
    have outer := List.sizeOf_lt_of_mem (Entries.mem_of_lookup given)
    have inner := List.sizeOf_lt_of_mem mem
    simp only [Prod.mk.sizeOf_spec, Value.object.sizeOf_spec, Value.list.sizeOf_spec] at outer ⊢
    omega

/-- Induction over the nodes of a schema. -/
theorem schema_induct {P : Value → Prop} (other : ∀ v, (∀ entries, v ≠ .object entries) → P v)
    (node : ∀ entries, (∀ s, Part entries s → P s) → P (.object entries)) (v : Value) : P v := by
  -- A part stands two levels down, below the object of properties or the list of items.
  suffices P v ∧ (∀ properties, v = .object properties → ∀ property ∈ properties, P property.2) ∧
      ∀ items, v = .list items → ∀ s ∈ items, P s from this.1
  induction v with
  | null | bool | int | float | text | tuple => exact ⟨other _ (by simp), by simp, by simp⟩
  | list items ih =>
    refine ⟨other _ (by simp), by simp, ?_⟩
    intro _ eq s hs
    cases eq
    exact (ih s hs).1
  | object entries ih =>
    refine ⟨node entries ?_, ?_, by simp⟩
    · intro s part
      cases part with
      | property given mem => exact (ih _ (Entries.mem_of_lookup given)).2.1 _ rfl _ mem
      | item given => exact (ih _ (Entries.mem_of_lookup given)).1
      | position given mem => exact (ih _ (Entries.mem_of_lookup given)).2.2 _ rfl s mem
    · intro _ eq property hp
      cases eq
      exact (ih property hp).1

theorem Kind.named?_eq_some {v : Value} {kind : Kind} :
    named? v = some kind ↔ v = .text kind.name := by
  constructor
  · intro h
    cases v with
    | text s =>
      have named := List.find?_some h
      rw [beq_iff_eq] at named
      rw [named]
    | _ => cases h
  · intro h
    subst h
    cases kind <;> rfl

namespace Node

theorem kinds?_eq_some {names : List Value} {kinds : List Kind} :
    kinds? names = some kinds ↔ kinds ≠ [] ∧ names = kinds.map fun kind => .text kind.name := by
  have all_named : names.mapM Kind.named? = some kinds ↔
      names = kinds.map fun kind => .text kind.name := by
    induction names generalizing kinds with
    | nil => cases kinds <;> simp
    | cons v names ih =>
      rw [List.mapM_cons]
      constructor
      · intro h
        obtain ⟨kind, hk, h⟩ := Option.bind_eq_some_iff.1 h
        obtain ⟨rest, hr, eq⟩ := Option.bind_eq_some_iff.1 h
        cases eq
        rw [List.map_cons, ← ih.1 hr, Kind.named?_eq_some.1 hk]
      · intro h
        cases kinds with
        | nil => cases h
        | cons kind kinds =>
          obtain ⟨hv, hr⟩ := List.cons.inj h
          simp [Kind.named?_eq_some.2 hv, ih.2 hr]
  unfold kinds?
  cases names with
  | nil =>
    simp only [List.isEmpty_nil, if_true]
    cases kinds <;> simp
  | cons v names =>
    rw [if_neg (by simp), all_named]
    refine ⟨fun h => ⟨?_, h⟩, fun h => h.2⟩
    intro h
    subst h
    cases h

/-- The kinds that a node names, in order. -/
def kindsOf (entries : List (String × Value)) : List Kind :=
  match entries.lookup "type" with
  | some (.list names) => names.filterMap Kind.named?
  | some name => (Kind.named? name).toList
  | none => []

theorem kindsOf_single {entries : List (String × Value)} {kind : Kind}
    (given : entries.lookup "type" = some (.text kind.name)) : kindsOf entries = [kind] := by
  simp only [kindsOf, given, Kind.named?_eq_some.2 rfl, Option.toList_some]

theorem kindsOf_several {entries : List (String × Value)} {kinds : List Kind}
    (given : entries.lookup "type" = some (.list (kinds.map fun kind => .text kind.name))) :
    kindsOf entries = kinds := by
  have named : (Kind.named? ∘ fun kind : Kind => .text kind.name) = some :=
    funext fun kind => Kind.named?_eq_some.2 rfl
  simp only [kindsOf, given, List.filterMap_map, named, List.filterMap_some]

/-- The kinds that a node is compiled as, if its type is well-formed. -/
def compiledAs (entries : List (String × Value)) : List Kind :=
  match entries.lookup "type" with
  | some (.list names) => (kinds? names).getD []
  | some name => (Kind.named? name).toList
  | none => []

theorem compiledAs_cases {entries : List (String × Value)} {kinds : List Kind}
    (h : compiledAs entries = kinds) (inhabited : kinds ≠ []) :
    (∃ kind : Kind, entries.lookup "type" = some (.text kind.name) ∧ kinds = [kind]) ∨
      entries.lookup "type" = some (.list (kinds.map fun kind => .text kind.name)) := by
  subst h
  unfold compiledAs at inhabited ⊢
  cases given : entries.lookup "type" with
  | none => simp [given] at inhabited
  | some type =>
    cases type with
    | list names =>
      cases listed : kinds? names with
      | none => simp [given, listed] at inhabited
      | some kinds =>
        simp only [listed, Option.getD_some]
        exact .inr (congrArg (fun names => some (Value.list names)) (kinds?_eq_some.1 listed).2)
    | text s =>
      cases named : Kind.named? (.text s) with
      | none => simp [given, named] at inhabited
      | some kind => exact .inl ⟨kind, congrArg some (Kind.named?_eq_some.1 named), by simp [named]⟩
    | _ => simp [given, Kind.named?] at inhabited

/-- The node that an object is, with its parts compiled. -/
def ofEntries (formats : Registry) (entries : List (String × Value)) : Node where
  entries := entries
  properties := compileProperties formats entries
  items := compileItems formats entries

theorem ofEntries_get? (formats : Registry) (entries : List (String × Value)) (keyword : String) :
    (ofEntries formats entries).get? keyword = entries.lookup keyword := rfl

theorem ofEntries_properties (formats : Registry) (entries : List (String × Value)) :
    (ofEntries formats entries).properties =
      match entries.lookup "properties" with
      | some (.object properties) => compileFields formats properties
      | _ => pure [] := by
  show compileProperties formats entries = _
  induction entries with
  | nil => rfl
  | cons entry rest ih =>
    obtain ⟨keyword, v⟩ := entry
    by_cases hk : keyword = "properties"
    · subst hk
      rw [List.lookup_cons_self]
      cases v <;> simp only [compileProperties, if_true]
    · rw [List.lookup_cons, beq_false_of_ne (Ne.symm hk), ← ih]
      cases v <;> simp only [compileProperties, if_neg hk]

theorem ofEntries_items (formats : Registry) (entries : List (String × Value)) :
    (ofEntries formats entries).items =
      match entries.lookup "items" with
      | some (.object item) => some (.list <$> Conform.compile formats (.object item))
      | some (.list items) => some (.tuple <$> compileAll formats items)
      | _ => none := by
  show compileItems formats entries = _
  induction entries with
  | nil => rfl
  | cons entry rest ih =>
    obtain ⟨keyword, v⟩ := entry
    by_cases hk : keyword = "items"
    · subst hk
      rw [List.lookup_cons_self]
      cases v <;> simp only [compileItems, if_true]
    · rw [List.lookup_cons, beq_false_of_ne (Ne.symm hk), ← ih]
      cases v <;> simp only [compileItems, if_neg hk]

end Node

/-- The schemas that a node has as parts and that some kind of the node makes use of. -/
inductive UsedPart (entries : List (String × Value)) : Value → Prop where
  | property {properties : List (String × Value)} {key : String} {s : Value}
      (kind : .object ∈ Node.kindsOf entries)
      (given : entries.lookup "properties" = some (.object properties))
      (mem : (key, s) ∈ properties) : UsedPart entries s
  | item {item : List (String × Value)} (kind : .array ∈ Node.kindsOf entries)
      (given : entries.lookup "items" = some (.object item)) : UsedPart entries (.object item)
  | position {items : List Value} {s : Value} (kind : .array ∈ Node.kindsOf entries)
      (given : entries.lookup "items" = some (.list items)) (mem : s ∈ items) : UsedPart entries s

theorem UsedPart.toPart {entries : List (String × Value)} {s : Value} (h : UsedPart entries s) :
    Part entries s := by
  cases h with
  | property _ given mem => exact .property given mem
  | item _ given => exact .item given
  | position _ given mem => exact .position given mem

/-- One schema has another for a part that it makes use of. -/
inductive Uses : Value → Value → Prop where
  | part {entries : List (String × Value)} {s : Value} (h : UsedPart entries s) :
      Uses (.object entries) s

/-- The schemas that are made use of anywhere in a schema, itself among them. -/
abbrev Contains : Value → Value → Prop :=
  Relation.ReflTransGen Uses

theorem contains_object {entries : List (String × Value)} {n : Value} :
    Contains (.object entries) n ↔
      n = .object entries ∨ ∃ s, UsedPart entries s ∧ Contains s n := by
  rw [Contains, Relation.ReflTransGen.cases_head_iff, eq_comm]
  refine or_congr_right (exists_congr fun s => and_congr_left' ⟨fun h => ?_, .part⟩)
  cases h with
  | part h => exact h

end Conform
