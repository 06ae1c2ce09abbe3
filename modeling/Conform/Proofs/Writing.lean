import Conform.Proofs.Failures
import Conform.Proofs.Naming

namespace Conform

/-- What a value consists of is no longer than the value. -/
theorem Value.Writable.of_elements {v : Value} {items : List Value} (h : v.Writable)
    (found : v.elements? = some items) : ∀ x ∈ items, x.Writable := by
  cases v with
  | text | object =>
    cases found
    rw [List.forall_mem_map]
    exact fun _ _ => .text _
  | list => exact Option.some.inj found ▸ writable_list.1 h
  | tuple => exact Option.some.inj found ▸ writable_tuple.1 h
  | _ => cases found

namespace Predicate

theorem writable_both {left right : Predicate} (hl : left.Writable) (hr : right.Writable) :
    (both left right).Writable :=
  List.forall_mem_append.2 ⟨hl, hr⟩

theorem writable_conjoin {gathered : Option Predicate} {p : Predicate}
    (before : ∀ q ∈ gathered, q.Writable) (h : p.Writable) : (conjoin gathered p).Writable := by
  cases gathered with
  | none => exact h
  | some q => exact writable_both (before q rfl) h

theorem writable_gather {gathered : Option Predicate} {ps : List Predicate}
    (before : ∀ q ∈ gathered, q.Writable) (each : ∀ p ∈ ps, p.Writable) :
    ∀ q ∈ gather gathered ps, q.Writable := by
  induction ps generalizing gathered with
  | nil => exact before
  | cons p ps ih =>
    obtain ⟨first, rest⟩ := List.forall_mem_cons.1 each
    refine ih (fun q joined => ?_) rest
    cases joined
    exact writable_conjoin before first

/-- A single constraint is written with its parameters. -/
theorem writable_of_parameters {p : Predicate} (single : p.leaves = [p])
    (each : ∀ v ∈ p.parameters, v.Writable) : p.Writable := by
  rw [Writable, single, List.forall_mem_singleton]
  exact each

end Predicate

namespace Descriptor

/-- Nothing that is written of the type or of its parts is too long. -/
inductive Writable : Descriptor → Prop where
  | any : Writable .any
  | primitive (kind : Kind) : Writable (.primitive kind)
  | enumeration {members : List (Value × Value)} (each : ∀ m ∈ members, m.1.Writable) :
      Writable (.enumeration members)
  | refined {base : Descriptor} {p : Predicate} (inner : base.Writable)
      (constraints : p.Writable) : Writable (.refined base p)
  | maybe {t : Descriptor} (inner : t.Writable) : Writable (.maybe t)
  | struct {fields : List (String × Descriptor)} {given : Value}
      (inner : ∀ f ∈ fields, f.2.Writable) (name : given.Writable) :
      Writable (.struct fields given)
  | list {t : Descriptor} (inner : t.Writable) : Writable (.list t)
  | tuple {ts : List Descriptor} (inner : ∀ t ∈ ts, t.Writable) : Writable (.tuple ts)
  | union {ts : List Descriptor} (inner : ∀ t ∈ ts, t.Writable) : Writable (.union ts)

namespace Writable

variable {t u d : Descriptor}

theorem not_longNamed (h : t.Writable) : ¬t.LongNamed := by
  cases h with
  | struct _ name => exact fun long => long.2 name
  | _ => exact id

theorem not_overlong (h : t.Writable) : ¬t.Overlong := by
  cases h with
  | enumeration each =>
    rintro ⟨m, hm, long⟩
    exact long (each m hm)
  | refined inner constraints =>
    rintro (long | long)
    · exact inner.not_longNamed long
    · exact long constraints
  | maybe inner | list inner => exact inner.not_longNamed
  | struct inner =>
    rintro ⟨_, f, hf, long⟩
    exact (inner f hf).not_longNamed long
  | _ => exact id

theorem part (h : t.Writable) (part : u ∈ t.parts) : u.Writable := by
  cases h with
  | any | primitive | enumeration => cases part
  | refined inner | maybe inner | list inner =>
    rw [List.mem_singleton.1 part]
    exact inner
  | struct inner =>
    obtain ⟨f, hf, rfl⟩ := List.mem_map.1 part
    exact inner f hf
  | tuple inner | union inner => exact inner u part

theorem occurs (h : t.Writable) (occurs : d.Occurs t) : d.Writable := by
  induction occurs with
  | here => exact h
  | inside part _ ih => exact ih (h.part part)

theorem constrained {ps : List Predicate} (h : t.Writable) (each : ∀ p ∈ ps, p.Writable) :
    (t.constrained ps).Writable := by
  have gathered : ∀ q ∈ Predicate.gather none ps, q.Writable :=
    Predicate.writable_gather nofun each
  unfold Descriptor.constrained
  cases joined : Predicate.gather none ps with
  | none => exact h
  | some p => exact .refined h (gathered p joined)

end Writable
end Descriptor

namespace Node

variable {formats : Registry} {entries : List (String × Value)}

/-- What stands in a short node goes into short constraints. -/
theorem writable_leaf (short : (Value.object entries).Writable) {keyword : String}
    {make : Value → Predicate}
    (made : ∀ v, (make v).leaves = [make v] ∧ (make v).parameters = [v]) :
    ∀ p ∈ (ofEntries formats entries).leaf keyword make, p.Writable := by
  intro p hp
  obtain ⟨v, given, rfl⟩ := List.mem_map.1 hp
  refine Predicate.writable_of_parameters (made v).1 ?_
  rw [(made v).2, List.forall_mem_singleton]
  exact short.of_lookup (Option.mem_toList.1 given)

theorem writable_flagged {n : Node} {keyword : String} {p : Predicate} (h : p.Writable) :
    ∀ q ∈ n.flagged keyword p, q.Writable :=
  fun _ hq => mem_flagged hq ▸ h

theorem writable_textLeaves (short : (Value.object entries).Writable) {ps : List Predicate}
    (leaves : (ofEntries formats entries).textLeaves formats = .ok ps) :
    ∀ p ∈ ps, p.Writable := by
  obtain ⟨patterns, names, hp, hn, rfl⟩ := textLeaves_ok.1 leaves
  have searched : ∀ p ∈ patterns, p.Writable := by
    rcases readLeaf_ok.1 hp with ⟨_, rfl⟩ | ⟨v, p, _, made, rfl⟩
    · exact nofun
    · obtain ⟨source, q, _, _, rfl⟩ := pattern_ok.1 made
      rw [List.forall_mem_singleton]
      exact Predicate.writable_of_parameters rfl (List.forall_mem_singleton.2 (.text _))
  have named : ∀ p ∈ names, p.Writable := by
    rcases readLeaf_ok.1 hn with ⟨_, rfl⟩ | ⟨v, p, given, made, rfl⟩
    · exact nofun
    · obtain ⟨_, handle, _, rfl⟩ := format_ok.1 made
      rw [List.forall_mem_singleton]
      have short := short.of_lookup given
      exact Predicate.writable_of_parameters rfl (List.forall_mem_singleton.2 short)
  simp only [List.forall_mem_append]
  exact ⟨⟨⟨writable_leaf short fun _ => ⟨rfl, rfl⟩, writable_leaf short fun _ => ⟨rfl, rfl⟩⟩,
    searched⟩, named⟩

theorem writable_boundLeaves (short : (Value.object entries).Writable) :
    ∀ p ∈ (ofEntries formats entries).boundLeaves, p.Writable :=
  List.forall_mem_append.2
    ⟨writable_leaf short fun _ => ⟨rfl, rfl⟩, writable_leaf short fun _ => ⟨rfl, rfl⟩⟩

theorem writable_countLeaves (short : (Value.object entries).Writable) :
    ∀ p ∈ (ofEntries formats entries).countLeaves, p.Writable := by
  have distinct : Predicate.distinct.Writable := Predicate.writable_of_parameters rfl nofun
  simp only [countLeaves, List.forall_mem_append]
  exact ⟨⟨writable_leaf short fun _ => ⟨rfl, rfl⟩, writable_leaf short fun _ => ⟨rfl, rfl⟩⟩,
    writable_flagged distinct⟩

theorem Pairs.writable (short : (Value.object entries).Writable) {values : Value}
    {members : List (Value × Value)} (given : entries.lookup "enum" = some values)
    (pairs : (ofEntries formats entries).Pairs values members) : ∀ m ∈ members, m.1.Writable := by
  obtain ⟨items, labels, found, _, rfl, _⟩ := pairs
  intro m hm
  exact (short.of_lookup given).of_elements found m.1 (List.of_mem_zip hm).1

/-- The types of short parts are short. -/
abbrev WritesPart (formats : Registry) (s : Value) (t : Descriptor) : Prop :=
  Compiles formats s t ∧ (s.Writable → t.Writable)

theorem writable_itemsType (short : (Value.object entries).Writable) {base : Descriptor}
    (yields : (ofEntries formats entries).ItemsYield (WritesPart formats) base) :
    base.Writable := by
  cases yields with
  | absent => exact .primitive _
  | each given part =>
    have inner : Part entries (.object _) := .item given
    exact .list (part.2 (inner.writable short))
  | positions given parts =>
    refine .tuple fun t ht => ?_
    obtain ⟨s, hs, _, written⟩ := exists_of_mem_forall₂ parts ht
    have inner : Part entries s := .position given hs
    exact written (inner.writable short)

theorem writable_asKind (short : (Value.object entries).Writable) {kind : Kind} {t : Descriptor}
    (yields : (ofEntries formats entries).KindYields formats (WritesPart formats) kind t) :
    t.Writable := by
  cases yields with
  | null | boolean | object => exact .primitive _
  | enumeration _ given pairs => exact .enumeration (pairs.writable short given)
  | string _ leaves => exact .constrained (.primitive _) (writable_textLeaves short leaves)
  | number =>
    have whole : Predicate.whole.Writable := Predicate.writable_of_parameters rfl nofun
    exact .constrained (.primitive _)
      (List.forall_mem_append.2 ⟨writable_boundLeaves short, writable_flagged whole⟩)
  | integer => exact .constrained (.primitive _) (writable_boundLeaves short)
  | @struct properties types names given inhabited needed each =>
    refine .struct (fun f hf => ?_) ?_
    · obtain ⟨g, hg, rfl⟩ := List.mem_map.1 hf
      obtain ⟨p, hp, _, _, written⟩ := exists_of_mem_forall₂ each hg
      have inner : Part entries p.2 := .property given hp
      have short := written (inner.writable short)
      exact field_elim short (.maybe short)
    · rw [ofEntries_get?]
      cases described : entries.lookup "description" with
      | none => exact .null
      | some v => exact short.of_lookup described
  | array items => exact .constrained (writable_itemsType short items) (writable_countLeaves short)

end Node

/-- What a type is written with comes from its schema. -/
theorem writable_of_compiles {formats : Registry} {s : Value} {t : Descriptor}
    (h : Compiles formats s t) (short : s.Writable) : t.Writable := by
  revert short
  refine compiles_induct (Q := fun s t => s.Writable → t.Writable) ?_ h
  intro entries t yields short
  cases yields with
  | untyped => exact .any
  | single _ part => exact Node.writable_asKind short part
  | several _ _ parts =>
    refine .union fun t ht => ?_
    obtain ⟨kind, _, part⟩ := exists_of_mem_forall₂ parts ht
    exact Node.writable_asKind short part

/-- The type of a schema that can be written displays nothing that is too long. -/
theorem not_overlong_of_compiles {formats : Registry} {s : Value} {t d : Descriptor}
    (h : Compiles formats s t) (short : s.Writable) (displayed : d.Displayed t) : ¬d.Overlong :=
  ((writable_of_compiles h short).occurs displayed.occurs).not_overlong

end Conform
