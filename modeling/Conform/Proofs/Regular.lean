import Conform.Proofs.Yields

namespace Conform

namespace Descriptor

/-- A type that accepts nothing but numbers. -/
def Numeric (t : Descriptor) : Prop :=
  ∀ host v, (t.check host v).outcome = .ok true → Kind.number.accepts v = true

/-- Fields have distinct keys, members are well keyed, and bounds are put on numbers only. -/
inductive Regular : Descriptor → Prop where
  | any : Regular .any
  | primitive (kind : Kind) : Regular (.primitive kind)
  | enumeration {members : List (Value × Value)} (keyed : ∀ m ∈ members, m.1.WellKeyed) :
      Regular (.enumeration members)
  | refined {base : Descriptor} {p : Predicate} (inner : Regular base)
      (bounds : ∀ relation limit, .bound relation limit ∈ p.leaves → base.Numeric) :
      Regular (.refined base p)
  | maybe {t : Descriptor} (inner : Regular t) : Regular (.maybe t)
  | struct {fields : List (String × Descriptor)} {name : Value}
      (distinct : (Entries.keys fields).Nodup) (parts : ∀ f ∈ fields, Regular f.2) :
      Regular (.struct fields name)
  | list {t : Descriptor} (inner : Regular t) : Regular (.list t)
  | tuple {ts : List Descriptor} (parts : ∀ t ∈ ts, Regular t) : Regular (.tuple ts)
  | union {ts : List Descriptor} (parts : ∀ t ∈ ts, Regular t) : Regular (.union ts)

theorem Regular.part {t a : Descriptor} {step : Step} (h : t.Regular) (ha : t.part? step = some a) :
    a.Regular := by
  cases h with
  | any | primitive | enumeration => cases ha
  | refined inner =>
    cases step with
    | base =>
      cases ha
      exact inner
    | _ => cases ha
  | maybe inner | list inner =>
    cases step with
    | inner =>
      cases ha
      exact inner
    | _ => cases ha
  | struct _ parts =>
    cases step with
    | field => exact parts _ (Entries.mem_of_lookup ha)
    | _ => cases ha
  | tuple parts | union parts =>
    cases step with
    | component => exact parts _ (List.mem_of_getElem? ha)
    | _ => cases ha

end Descriptor

theorem Value.WellKeyed.of_elements {v x : Value} {items : List Value} (h : v.WellKeyed)
    (hi : v.elements? = some items) (hx : x ∈ items) : x.WellKeyed := by
  cases h with
  | list parts | tuple parts =>
    cases hi
    exact parts x hx
  | text =>
    cases hi
    obtain ⟨c, _, rfl⟩ := List.mem_map.1 hx
    exact .text _
  | object =>
    cases hi
    obtain ⟨entry, _, rfl⟩ := List.mem_map.1 hx
    exact .text _
  | _ => cases hi

theorem Part.wellKeyed {entries : List (String × Value)} {s : Value} (h : Part entries s)
    (keyed : (Value.object entries).WellKeyed) : s.WellKeyed := by
  cases h with
  | property given mem => exact (Value.wellKeyed_object.1 (keyed.of_lookup given)).2 _ mem
  | item given => exact keyed.of_lookup given
  | position given mem => exact Value.wellKeyed_list.1 (keyed.of_lookup given) s mem

theorem Predicate.mem_leaves_gather {gathered : Option Predicate} {ps : List Predicate}
    {p leaf : Predicate} (h : gather gathered ps = some p) (hl : leaf ∈ p.leaves) :
    (∃ q, gathered = some q ∧ leaf ∈ q.leaves) ∨ ∃ q ∈ ps, leaf ∈ q.leaves := by
  induction ps generalizing gathered with
  | nil => exact .inl ⟨p, h, hl⟩
  | cons q ps ih =>
    rcases ih h with ⟨joined, eq, hm⟩ | ⟨q', hq, hm⟩
    · cases eq
      cases gathered with
      | none => exact .inr ⟨q, List.mem_cons_self, hm⟩
      | some g =>
        rcases List.mem_append.1 hm with earlier | here
        · exact .inl ⟨g, rfl, earlier⟩
        · exact .inr ⟨q, List.mem_cons_self, here⟩
    · exact .inr ⟨q', List.mem_cons_of_mem _ hq, hm⟩

theorem Descriptor.regular_constrained {base : Descriptor} {ps : List Predicate}
    (h : base.Regular) (bounds : ∀ p ∈ ps, ∀ relation limit,
      .bound relation limit ∈ p.leaves → base.Numeric) : (base.constrained ps).Regular := by
  unfold constrained
  cases gathered : Predicate.gather none ps with
  | none => exact h
  | some p =>
    refine .refined h fun relation limit hm => ?_
    rcases Predicate.mem_leaves_gather gathered hm with ⟨_, eq, _⟩ | ⟨q, hq, hm⟩
    · cases eq
    · exact bounds q hq relation limit hm

namespace Node

variable {n : Node} {formats : Registry}

/-- A constraint that is no conjunction is its own only leaf. -/
theorem not_bound_of_leaf {keyword : String} {make : Value → Predicate}
    (single : ∀ v relation limit, .bound relation limit ∉ (make v).leaves) {p : Predicate}
    (hp : p ∈ n.leaf keyword make) {relation : Relation} {limit : Value} :
    .bound relation limit ∉ p.leaves := by
  obtain ⟨v, rfl⟩ := mem_leaf hp
  exact single v relation limit

theorem not_bound_of_readLeaf {keyword : String} {make : Value → Except Error Predicate}
    {ps : List Predicate} (read : n.readLeaf keyword make = .ok ps)
    (single : ∀ v p relation limit, make v = .ok p → .bound relation limit ∉ p.leaves)
    {p : Predicate} (hp : p ∈ ps) {relation : Relation} {limit : Value} :
    .bound relation limit ∉ p.leaves := by
  rcases readLeaf_ok.1 read with ⟨_, rfl⟩ | ⟨v, q, _, made, rfl⟩
  · cases hp
  · rw [List.mem_singleton.1 hp]
    exact single v q relation limit made

/-- A text has no bounds. -/
theorem not_bound_of_textLeaves {ps : List Predicate} (leaves : n.textLeaves formats = .ok ps)
    {p : Predicate} (hp : p ∈ ps) {relation : Relation} {limit : Value} :
    .bound relation limit ∉ p.leaves := by
  obtain ⟨patterns, names, hpat, hname, rfl⟩ := textLeaves_ok.1 leaves
  simp only [List.mem_append] at hp
  rcases hp with ((hp | hp) | hp) | hp
  · exact not_bound_of_leaf (by simp [Predicate.leaves]) hp
  · exact not_bound_of_leaf (by simp [Predicate.leaves]) hp
  · refine not_bound_of_readLeaf hpat (fun v p relation limit made => ?_) hp
    obtain ⟨_, q, _, _, rfl⟩ := pattern_ok.1 made
    simp [Predicate.leaves]
  · refine not_bound_of_readLeaf hname (fun v p relation limit made => ?_) hp
    obtain ⟨_, handle, _, rfl⟩ := format_ok.1 made
    simp [Predicate.leaves]

/-- Nor have the items of an array. -/
theorem not_bound_of_countLeaves {p : Predicate} (hp : p ∈ n.countLeaves) {relation : Relation}
    {limit : Value} : .bound relation limit ∉ p.leaves := by
  simp only [countLeaves, List.mem_append] at hp
  rcases hp with (hp | hp) | hp
  · exact not_bound_of_leaf (by simp [Predicate.leaves]) hp
  · exact not_bound_of_leaf (by simp [Predicate.leaves]) hp
  · rw [mem_flagged hp]
    simp [Predicate.leaves]

theorem numeric_of_accepts {kind : Kind}
    (h : ∀ v, kind.accepts v = true → Kind.number.accepts v = true) :
    (Descriptor.primitive kind).Numeric := by
  intro host v accepted
  rw [Descriptor.check] at accepted
  exact h v (Except.ok.inj accepted)

theorem keys_fields {P : Value → Descriptor → Prop} (names : List Value)
    {properties : List (String × Value)} {types : List (String × Descriptor)}
    (h : List.Forall₂ (fun p f => f.1 = p.1 ∧ P p.2 f.2) properties types) :
    Entries.keys (types.map fun f => field names f.1 f.2) = Entries.keys properties := by
  induction h with
  | nil => rfl
  | cons first _ ih => exact List.cons_eq_cons.2 ⟨(key_field names _ _).trans first.1, ih⟩

theorem regular_asKind (keyed : n.value.WellKeyed) {kind : Kind} {t : Descriptor}
    (yields : n.KindYields formats (fun _ u => u.Regular) kind t) : t.Regular := by
  cases yields with
  | null | boolean | object => exact .primitive _
  | enumeration _ given pairs =>
    obtain ⟨items, labels, hv, _, rfl, _⟩ := pairs
    refine .enumeration fun m hm => ?_
    exact (keyed.of_lookup given).of_elements hv (List.of_mem_zip hm).1
  | string _ leaves =>
    exact Descriptor.regular_constrained (.primitive _) fun p hp _ _ hm =>
      absurd hm (not_bound_of_textLeaves leaves hp)
  | number =>
    exact Descriptor.regular_constrained (.primitive _) fun _ _ _ _ _ =>
      numeric_of_accepts fun _ h => h
  | integer =>
    exact Descriptor.regular_constrained (.primitive _) fun _ _ _ _ _ =>
      numeric_of_accepts fun _ h => Kind.number_of_integer h
  | struct given _ _ each =>
    refine .struct ?_ ?_
    · rw [keys_fields (P := fun _ u => u.Regular) _ each]
      exact (Value.wellKeyed_object.1 (keyed.of_lookup given)).1
    · intro f hf
      obtain ⟨g, hg, rfl⟩ := List.mem_map.1 hf
      obtain ⟨_, _, _, part⟩ := exists_of_mem_forall₂ each hg
      exact field_elim part (.maybe part)
  | array items =>
    refine Descriptor.regular_constrained ?_ fun p hp _ _ hm =>
      absurd hm (not_bound_of_countLeaves hp)
    cases items with
    | absent => exact .primitive _
    | each _ part => exact .list part
    | positions _ each =>
      refine .tuple fun t ht => ?_
      obtain ⟨_, _, part⟩ := exists_of_mem_forall₂ each ht
      exact part

theorem regular_node (keyed : n.value.WellKeyed) {t : Descriptor}
    (yields : n.Yields formats (fun _ u => u.Regular) t) : t.Regular := by
  cases yields with
  | untyped => exact .any
  | single _ part => exact regular_asKind keyed part
  | several _ _ each =>
    refine .union fun t ht => ?_
    obtain ⟨_, _, part⟩ := exists_of_mem_forall₂ each ht
    exact regular_asKind keyed part

end Node

theorem regular_of_compiles {formats : Registry} {s : Value} {t : Descriptor}
    (h : Compiles formats s t) (keyed : s.WellKeyed) : t.Regular := by
  refine compiles_induct (Q := fun s t => s.WellKeyed → t.Regular) ?_ h keyed
  intro entries t yields keyed
  have parts := yields.imp fun s u part h => h.2 (part.wellKeyed keyed)
  exact Node.regular_node (n := Node.ofEntries formats entries) keyed parts

end Conform
