import Conform.Proofs.Correspondence
import Conform.Proofs.Documents
import Conform.Proofs.Yields

namespace Conform

namespace Value

theorem Same.isNull {v w : Value} (h : Same v w) : v.isNull = w.isNull := by
  have null : ∀ v : Value, v.isNull = Kind.null.accepts v := by
    intro v
    cases v <;> rfl
  rw [null, null, h.accepts]

theorem Same.compare {v w : Value} (h : Same v w) (number : Kind.number.accepts v = true)
    (relation : Relation) (limit : Value) :
    Alike (.lift (v.compare relation limit)) (.lift (w.compare relation limit)) := by
  have number' : Kind.number.accepts w = true := (h.accepts .number).symm.trans number
  rw [compare_number relation number, compare_number relation number']
  cases h with
  | number left right ha hb =>
    rw [ha, hb]
    cases limit.quantity? <;> rfl
  | items ha => cases v <;> cases ha <;> cases number
  | _ => cases number

/-- Two ways to write one document, with distinct keys in both. -/
structure Twins (v w : Value) : Prop where
  same : Same v w
  left : v.WellKeyed
  right : w.WellKeyed

namespace Twins

variable {v w : Value}

theorem documentEq_left (h : Twins v w) (m : Value) : v.documentEq m = w.documentEq m := by
  rw [Bool.eq_iff_iff, documentEq_iff_same h.left, documentEq_iff_same h.right]
  exact ⟨h.same.symm.trans, h.same.trans⟩

theorem documentEq_right (h : Twins v w) {m : Value} (hm : m.WellKeyed) :
    m.documentEq v = m.documentEq w := by
  rw [Bool.eq_iff_iff, documentEq_iff_same hm, documentEq_iff_same hm]
  exact ⟨fun same => same.trans h.same, fun same => same.trans h.same.symm⟩

theorem items_cases (h : Twins v w) : (v.items? = none ∧ w.items? = none) ∨
    ∃ xs ys, v.items? = some xs ∧ w.items? = some ys ∧ List.Forall₂ Twins xs ys := by
  obtain ⟨same, left, right⟩ := h
  cases same with
  | @items _ _ xs ys ha hb length each =>
    refine .inr ⟨xs, ys, ha, hb, List.forall₂_iff_zip.2 ⟨length, fun hm => ?_⟩⟩
    obtain ⟨hx, hy⟩ := List.of_mem_zip hm
    exact ⟨each _ _ hm, left.of_items ha hx, right.of_items hb hy⟩
  | number ha hb => cases v <;> cases ha <;> cases w <;> cases hb <;> exact .inl ⟨rfl, rfl⟩
  | _ => exact .inl ⟨rfl, rfl⟩

theorem lookup_cases {xs ys : List (String × Value)} (h : Twins (.object xs) (.object ys))
    (key : String) : (xs.lookup key = none ∧ ys.lookup key = none) ∨
      ∃ x y, xs.lookup key = some x ∧ ys.lookup key = some y ∧ Twins x y := by
  obtain ⟨same, left, right⟩ := h
  cases same with
  | object keys each =>
    cases hx : xs.lookup key with
    | none =>
      have none := keys key
      rw [hx] at none
      exact .inl ⟨rfl, Option.isNone_iff_eq_none.1 (by simpa using none.symm)⟩
    | some x =>
      obtain ⟨y, hy⟩ := exists_counterpart keys hx
      exact .inr ⟨x, y, rfl, hy, each key x y hx hy, left.of_lookup hx, right.of_lookup hy⟩
  | number ha => cases ha
  | items ha => cases ha

theorem respectful : Respectful Twins where
  null h := h.same.isNull
  items h := h.items_cases
  object {v w} h := by
    have accepted := h.same.accepts .object
    cases v with
    | object xs =>
      cases w with
      | object ys => exact .inr ⟨xs, ys, rfl, rfl, h.lookup_cases⟩
      | _ => cases accepted
    | _ => exact .inl ⟨rfl, accepted.symm⟩

theorem allDistinct {xs ys : List Value} (h : List.Forall₂ Twins xs ys) :
    Conform.allDistinct xs = Conform.allDistinct ys := by
  induction h with
  | nil => rfl
  | @cons x y xs ys first rest ih =>
    have others : (xs.all fun z => !x.documentEq z) = ys.all fun z => !y.documentEq z := by
      clear ih
      induction rest with
      | nil => rfl
      | cons next _ ih =>
        rw [List.all_cons, List.all_cons, ih, first.documentEq_left,
          next.documentEq_right first.right]
    rw [Conform.allDistinct, Conform.allDistinct, ih, others]

end Twins
end Value

namespace Descriptor

/-- A type that takes all writings of a document alike. -/
def Blind (t : Descriptor) : Prop :=
  Answers Value.Twins t t

theorem blind_primitive (kind : Kind) : (primitive kind).Blind := by
  intro host v w twins
  rw [check, check, twins.same.accepts]
  rfl

theorem blind_enumeration (members : List (Value × Value)) : (enumeration members).Blind := by
  intro host v w twins
  rw [check, check, isSome_memberLabel?, isSome_memberLabel?]
  simp only [twins.documentEq_left]
  rfl

/-- Constraints come into play only where the base accepts. -/
theorem blind_constrained {base : Descriptor} {ps : List Predicate} (h : base.Blind)
    (leaves : ∀ p ∈ ps, ∀ host v w, (base.check host v).outcome = .ok true → Value.Twins v w →
      Alike (p.check host v) (p.check host w)) : (base.constrained ps).Blind := by
  intro host v w twins
  rw [check_constrained, check_constrained]
  apply (h host v w twins).andThen
  intro accepted
  exact Alike.all_of_mem fun p hp => leaves p hp host v w accepted twins

end Descriptor

namespace Node

variable {n : Node} {formats : Registry} {host : Host} {v w : Value}

/-- There is one way only to write a text. -/
theorem alike_on_text (p : Predicate)
    (accepted : ((Descriptor.primitive .string).check host v).outcome = .ok true)
    (twins : Value.Twins v w) : Alike (p.check host v) (p.check host w) := by
  have same := twins.same
  cases same with
  | text => rfl
  | number left => cases v <;> cases left <;> cases accepted
  | items ha => cases v <;> cases ha <;> cases accepted
  | _ => cases accepted

theorem alike_on_number {p : Predicate} (hp : p ∈ n.boundLeaves ++ n.flagged "integer" .whole)
    (number : Kind.number.accepts v = true) (twins : Value.Twins v w) :
    Alike (p.check host v) (p.check host w) := by
  rcases List.mem_append.1 hp with bound | flag
  · have limited : ∃ relation limit, p = .bound relation limit := by
      rcases List.mem_append.1 bound with lower | upper
      · exact ⟨_, mem_leaf lower⟩
      · exact ⟨_, mem_leaf upper⟩
    obtain ⟨relation, limit, rfl⟩ := limited
    exact twins.same.compare number relation limit
  · rw [mem_flagged flag, Predicate.check, Predicate.check, twins.same.accepts]
    rfl

/-- A type of items accepts nothing but sequences. -/
theorem items_of_accepted {P : Value → Descriptor → Prop} {base : Descriptor}
    (yields : n.ItemsYield P base) (accepted : (base.check host v).outcome = .ok true) :
    v.items? ≠ none := by
  intro none
  cases yields with
  | absent =>
    cases v with
    | list | tuple => cases none
    | _ => cases accepted
  | each | positions =>
    rw [Descriptor.check, none] at accepted
    cases accepted

theorem alike_on_items {p : Predicate} (hp : p ∈ n.countLeaves) (items : v.items? ≠ none)
    (twins : Value.Twins v w) : Alike (p.check host v) (p.check host w) := by
  obtain ⟨none, _⟩ | ⟨xs, ys, hx, hy, each⟩ := twins.items_cases
  · exact absurd none items
  have counted : ∀ {v : Value} {xs : List Value}, v.items? = some xs →
      v.length = .ok xs.length ∧ v.elements = .ok xs := by
    intro v xs hv
    cases v <;> cases hv <;> exact ⟨rfl, rfl⟩
  obtain ⟨lv, ev⟩ := counted hx
  obtain ⟨lw, ew⟩ := counted hy
  have length : ∀ relation limit,
      Predicate.compareLength relation v limit = Predicate.compareLength relation w limit := by
    intro relation limit
    rw [Predicate.compareLength, Predicate.compareLength, lv, lw, each.length_eq]
  rcases List.mem_append.1 hp with count | flag
  · rcases List.mem_append.1 count with least | most
    · obtain ⟨limit, rfl⟩ := mem_leaf least
      rw [Predicate.check, Predicate.check, length]
      rfl
    · obtain ⟨limit, rfl⟩ := mem_leaf most
      rw [Predicate.check, Predicate.check, length]
      rfl
  · rw [mem_flagged flag, Predicate.check, Predicate.check, ev, ew]
    show Alike (.lift (.ok (allDistinct xs))) (.lift (.ok (allDistinct ys)))
    rw [Value.Twins.allDistinct each]
    rfl

theorem blind_itemsType {P : Value → Descriptor → Prop} {base : Descriptor}
    (yields : n.ItemsYield P base) (parts : ∀ s t, P s t → t.Blind) : base.Blind := by
  cases yields with
  | absent => exact Descriptor.blind_primitive _
  | each _ part => exact (parts _ _ part).list Value.Twins.respectful
  | positions _ each =>
    apply Descriptor.Answers.tuple Value.Twins.respectful
    refine List.forall₂_same.2 fun t ht => ?_
    obtain ⟨s, _, part⟩ := exists_of_mem_forall₂ each ht
    exact parts s t part

theorem blind_asKind {P : Value → Descriptor → Prop} {kind : Kind} {t : Descriptor}
    (yields : n.KindYields formats P kind t) (parts : ∀ s t, P s t → t.Blind) : t.Blind := by
  cases yields with
  | null | boolean | object => exact Descriptor.blind_primitive _
  | enumeration => exact Descriptor.blind_enumeration _
  | string =>
    apply Descriptor.blind_constrained (Descriptor.blind_primitive _)
    intro p _ host v w accepted twins
    exact alike_on_text p accepted twins
  | number =>
    apply Descriptor.blind_constrained (Descriptor.blind_primitive _)
    intro p hp host v w accepted twins
    exact alike_on_number hp (Except.ok.inj accepted) twins
  | integer =>
    apply Descriptor.blind_constrained (Descriptor.blind_primitive _)
    intro p hp host v w accepted twins
    have number := Kind.number_of_integer (Except.ok.inj accepted)
    exact alike_on_number (List.mem_append_left _ hp) number twins
  | struct _ _ _ each =>
    apply Descriptor.Answers.struct Value.Twins.respectful
    refine List.forall₂_same.2 fun f hf => ⟨rfl, rfl, ?_⟩
    obtain ⟨g, hg, rfl⟩ := List.mem_map.1 hf
    obtain ⟨p, _, _, part⟩ := exists_of_mem_forall₂ each hg
    have blind := parts _ _ part
    exact field_elim (P := Descriptor.Blind) blind (blind.maybe Value.Twins.respectful)
  | array items =>
    apply Descriptor.blind_constrained (blind_itemsType items parts)
    intro p hp host v w accepted twins
    exact alike_on_items hp (items_of_accepted items accepted) twins

theorem blind_node {P : Value → Descriptor → Prop} {t : Descriptor}
    (yields : n.Yields formats P t) (parts : ∀ s t, P s t → t.Blind) : t.Blind := by
  cases yields with
  | untyped =>
    intro host v w _
    rw [Descriptor.check, Descriptor.check]
    rfl
  | single _ part => exact blind_asKind part parts
  | several _ _ each =>
    apply Descriptor.Answers.union
    refine List.forall₂_same.2 fun t ht => ?_
    obtain ⟨kind, _, part⟩ := exists_of_mem_forall₂ each ht
    exact blind_asKind part parts

end Node

theorem blind_of_compiles {formats : Registry} {s : Value} {t : Descriptor}
    (h : Compiles formats s t) : t.Blind :=
  compiles_induct (Q := fun _ t => t.Blind)
    (fun _ _ yields => Node.blind_node yields fun _ _ part => part.2) h

/-- Equal documents are accepted alike by whatever a schema compiles to. -/
theorem check_alike {formats : Registry} {s : Value} {t : Descriptor}
    (h : (compile formats s).outcome = .ok t) {v w : Value} (hv : v.WellKeyed) (hw : w.WellKeyed)
    (same : v.documentEq w = true) (host : Host) : Alike (t.check host v) (t.check host w) :=
  blind_of_compiles h host v w ⟨Value.same_of_documentEq same, hv, hw⟩

/-- A bound that no number can be compared with; the faults name different forms. -/
theorem check_alike_int_float :
    let s : Value := .object [("type", .text "object"), ("properties",
      .object [("size", .object [("type", .text "number"), ("minimum", .text "low")])])]
    let t : Descriptor := .struct
      [("size", .maybe (.refined (.primitive .number) (.bound .atLeast (.text "low"))))] .null
    let v : Value := .object [("size", .int 1), ("note", .list [])]
    let w : Value := .object [("note", .tuple []), ("size", .float (.finite false 1 0))]
    let host : Host := fun _ v => .ok v
    (compile .empty s).outcome = .ok t ∧ v.WellKeyed ∧ w.WellKeyed ∧ v.documentEq w = true ∧
      Alike (t.check host v) (t.check host w) ∧
      (t.check host v).outcome = .error (.unordered .atLeast .int .text) ∧
      (t.check host w).outcome = .error (.unordered .atLeast .float .text) := by
  intro s t v w host
  have compiled : (compile .empty s).outcome = .ok t := rfl
  have keyed : v.WellKeyed ∧ w.WellKeyed := by simp [v, w, Entries.keys]
  have same : v.documentEq w = true := by decide +kernel
  exact ⟨compiled, keyed.1, keyed.2, same, check_alike compiled keyed.1 keyed.2 same host, rfl, rfl⟩

end Conform
