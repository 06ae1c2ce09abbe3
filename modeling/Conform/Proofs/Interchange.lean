import Conform.Proofs.EqualTypes
import Conform.Proofs.Membership
import Conform.Proofs.Regular

namespace Conform

namespace Descriptor

/-- The same members, as documents. -/
def SameMembers (ms ns : List (Value × Value)) : Prop :=
  (∀ m ∈ ms, ∃ n ∈ ns, m.1.documentEq n.1 = true) ∧
    ∀ n ∈ ns, ∃ m ∈ ms, n.1.documentEq m.1 = true

/-- One and the same value, with distinct keys. -/
def Itself (v w : Value) : Prop :=
  v = w ∧ v.WellKeyed

theorem respectful_itself : Respectful Itself where
  null h := by rw [h.1]
  items {v w} h := by
    obtain ⟨rfl, keyed⟩ := h
    cases found : v.items? with
    | none => exact .inl ⟨rfl, rfl⟩
    | some xs =>
      exact .inr ⟨xs, xs, rfl, rfl, List.forall₂_same.2 fun x hx => ⟨rfl, keyed.of_items found hx⟩⟩
  object {v w} h := by
    obtain ⟨rfl, keyed⟩ := h
    cases v with
    | object xs =>
      refine .inr ⟨xs, xs, rfl, rfl, fun key => ?_⟩
      cases found : xs.lookup key with
      | none => exact .inl ⟨rfl, rfl⟩
      | some x => exact .inr ⟨x, x, rfl, rfl, rfl, keyed.of_lookup found⟩
    | _ => exact .inl ⟨rfl, rfl⟩

theorem SameMembers.served {ms ns : List (Value × Value)} (h : SameMembers ms ns) :
    Served ms ns ∧ Served ns ms := by
  have serves : ∀ {ms ns : List (Value × Value)},
      (∀ m ∈ ms, ∃ n ∈ ns, m.1.documentEq n.1 = true) → Served ms ns := by
    intro ms ns h m hm
    obtain ⟨n, hn, same⟩ := h m hm
    exact ⟨n, hn, .inr (Value.same_of_documentEq same)⟩
  exact ⟨serves h.1, serves h.2⟩

theorem answers_enumeration {ms ns : List (Value × Value)} (h : SameMembers ms ns) :
    Answers Itself (.enumeration ms) (.enumeration ns) := by
  intro host v w related
  obtain ⟨rfl, keyed⟩ := related
  obtain ⟨forth, back⟩ := h.served
  rw [check_enumeration_eq, check_enumeration_eq, any_eq_of_served forth back keyed]
  rfl

/-- Equal types take a value alike if enumerations that face each other have the same members. -/
theorem Regular.answers {t u : Descriptor} (h : t.Regular) (eq : t.equal u = true)
    (members : ∀ ms ns, Facing t u (.enumeration ms) (.enumeration ns) → SameMembers ms ns) :
    Answers Itself t u := by
  induction h generalizing u with
  | any =>
    cases u with
    | any =>
      intro host v w _
      rw [check, check]
      rfl
    | _ => cases eq
  | primitive kind =>
    cases u with
    | primitive =>
      intro host v w related
      obtain ⟨rfl, _⟩ := related
      rw [show kind = _ from by simpa [equal] using eq]
      rfl
    | _ => cases eq
  | enumeration =>
    cases u with
    | enumeration => exact answers_enumeration (members _ _ .here)
    | _ => cases eq
  | refined _ bounds ih =>
    cases u with
    | refined =>
      obtain ⟨same, constraint⟩ := Bool.and_eq_true_iff.1 eq
      intro host v w related
      rw [check, check]
      have inner := ih same fun ms ns f => members ms ns (.below .base rfl rfl f)
      apply (inner host v w related).andThen
      -- The base has accepted the value, so a bound is compared with a number.
      intro accepted
      obtain ⟨rfl, _⟩ := related
      exact Predicate.alike_of_equal constraint host v fun r l hm => bounds r l hm host v accepted
    | _ => cases eq
  | maybe _ ih =>
    cases u with
    | maybe =>
      apply Answers.maybe respectful_itself
      exact ih eq fun ms ns f => members ms ns (.below .inner rfl rfl f)
    | _ => cases eq
  | @struct fs _ distinct _ ih =>
    cases u with
    | struct gs =>
      have fields := equalFields_iff.1 (Bool.and_eq_true_iff.1 eq).1
      have distinct' : (Entries.keys gs).Nodup := Entries.keys_eq_of_forall₂ fields ▸ distinct
      apply Answers.struct respectful_itself
      refine forall₂_of_mem fields fun f hf g hg both => ?_
      obtain ⟨same, part⟩ := both
      refine ⟨same, isMaybe_of_equal part, ih f hf part fun ms ns facing => members ms ns ?_⟩
      have found : gs.lookup f.1 = some g.2 := same ▸ Entries.lookup_of_mem distinct' hg
      exact .below (.field f.1) (Entries.lookup_of_mem distinct hf) found facing
    | _ => cases eq
  | list _ ih =>
    cases u with
    | list =>
      apply Answers.list respectful_itself
      exact ih eq fun ms ns f => members ms ns (.below .inner rfl rfl f)
    | _ => cases eq
  | tuple _ ih =>
    cases u with
    | tuple =>
      apply Answers.tuple respectful_itself
      refine forall₂_of_getElem? (equalAll_iff.1 eq) fun i a b ha hb same => ?_
      exact ih a (List.mem_of_getElem? ha) same fun ms ns f =>
        members ms ns (.below (.component i) ha hb f)
    | _ => cases eq
  | union _ ih =>
    cases u with
    | union =>
      apply Answers.union
      refine forall₂_of_getElem? (equalAll_iff.1 eq) fun i a b ha hb same => ?_
      exact ih a (List.mem_of_getElem? ha) same fun ms ns f =>
        members ms ns (.below (.component i) ha hb f)
    | _ => cases eq

end Descriptor

/-- The types accept the same values. -/
def Interchangeable (t u : Descriptor) : Prop :=
  ∀ host v, v.WellKeyed →
    ((t.check host v).outcome = .ok true ↔ (u.check host v).outcome = .ok true)

theorem Alike.accepts {x y : Check Bool} (h : Alike x y) :
    x.outcome = .ok true ↔ y.outcome = .ok true := by
  obtain ⟨_, outcome⟩ := Traced.mk.inj h
  rw [← except_mapError_ok, outcome, except_mapError_ok]

namespace Descriptor

theorem enumeration_accepts {ms : List (Value × Value)} {host : Host} {v : Value} :
    ((enumeration ms).check host v).outcome = .ok true ↔
      ∃ m ∈ ms, v.documentEq m.1 = true := by
  rw [check, Traced.pure_outcome, Except.ok.injEq, isSome_memberLabel?, List.any_eq_true]

/-- Members belong to their enumeration, provided that no undefined number is in them. -/
theorem member_accepted {ms : List (Value × Value)} (regular : (enumeration ms).Regular)
    {m : Value × Value} (hm : m ∈ ms) {v : Value} (eq : m.1.looseEq v = true) (host : Host) :
    ((enumeration ms).check host m.1).outcome = .ok true := by
  cases regular with
  | enumeration keyed =>
    exact enumeration_accepts.2 ⟨m, hm, Value.documentEq_of_same (Value.same_self eq) (keyed m hm)⟩

theorem sameMembers_of_interchangeable {ms ns : List (Value × Value)}
    (left : (enumeration ms).Regular) (right : (enumeration ns).Regular)
    (eq : equalMembers ms ns = true)
    (h : Interchangeable (enumeration ms) (enumeration ns)) : SameMembers ms ns := by
  have pairs := looseEq_of_equalMembers eq
  let host : Host := fun _ v => .ok v
  cases left with
  | enumeration keyed =>
    cases right with
    | enumeration keyed' =>
      constructor
      · intro m hm
        obtain ⟨n, _, loose⟩ := exists_of_mem_forall₂ pairs.flip hm
        have accepted := member_accepted (.enumeration keyed) hm loose host
        exact enumeration_accepts.1 ((h host m.1 (keyed m hm)).1 accepted)
      · intro n hn
        obtain ⟨m, hm, loose⟩ := exists_of_mem_forall₂ pairs hn
        have back := Value.looseEq_symm (keyed m hm) (keyed' n hn) loose
        have accepted := member_accepted (.enumeration keyed') hn back host
        exact enumeration_accepts.1 ((h host n.1 (keyed' n hn)).2 accepted)

end Descriptor

open Descriptor in
/-- Equal types are interchangeable, part by part, just if enumerations that face each other have
the same members. -/
theorem interchangeable_iff_sameMembers {formats₁ formats₂ : Registry} {s₁ s₂ : Value}
    {t₁ t₂ : Descriptor} (h₁ : (compile formats₁ s₁).outcome = .ok t₁)
    (h₂ : (compile formats₂ s₂).outcome = .ok t₂) (keyed₁ : s₁.WellKeyed)
    (keyed₂ : s₂.WellKeyed) (eq : t₁.equal t₂ = true) :
    (∀ a b, Facing t₁ t₂ a b → Interchangeable a b) ↔
      ∀ ms ns, Facing t₁ t₂ (.enumeration ms) (.enumeration ns) → SameMembers ms ns := by
  have left := regular_of_compiles h₁ keyed₁
  have right := regular_of_compiles h₂ keyed₂
  constructor
  · intro h ms ns facing
    have parts := facing.induct (P := fun t u => t.Regular ∧ u.Regular ∧ t.equal u = true)
      (fun ⟨left, right, eq⟩ ha hb => ⟨left.part ha, right.part hb, equal_of_part eq ha hb⟩)
      ⟨left, right, eq⟩
    obtain ⟨left, right, eq⟩ := parts
    exact sameMembers_of_interchangeable left right eq (h _ _ facing)
  · intro members a b facing
    have parts := facing.induct (P := fun t u => t.Regular ∧ t.equal u = true ∧
        ∀ ms ns, Facing t u (.enumeration ms) (.enumeration ns) → SameMembers ms ns)
      (fun ⟨left, eq, members⟩ ha hb => ⟨left.part ha, equal_of_part eq ha hb,
        fun ms ns below => members ms ns (.below _ ha hb below)⟩)
      ⟨left, eq, members⟩
    obtain ⟨left, eq, members⟩ := parts
    intro host v keyed
    exact (left.answers eq members host v v ⟨rfl, keyed⟩).accepts

/-- A zero of either sign makes the same document. -/
theorem interchangeable_iff_sameMembers_zero :
    let zero (negative : Bool) : Value := .float (.finite negative 0 (-1074))
    let s (negative : Bool) : Value := .object [("type", .text "array"),
      ("items", .object [("type", .text "number"), ("enum", .list [zero negative])])]
    let t (negative : Bool) : Descriptor := .list (.enumeration [(zero negative, zero negative)])
    (compile .empty (s false)).outcome = .ok (t false) ∧
      (compile .empty (s true)).outcome = .ok (t true) ∧
      (s false).WellKeyed ∧ (s true).WellKeyed ∧ (t false).equal (t true) = true ∧
      ((∀ a b, Descriptor.Facing (t false) (t true) a b → Interchangeable a b) ↔
        ∀ ms ns, Descriptor.Facing (t false) (t true) (.enumeration ms) (.enumeration ns) →
          Descriptor.SameMembers ms ns) := by
  intro zero s t
  have compiled : ∀ negative, (compile .empty (s negative)).outcome = .ok (t negative) :=
    fun _ => rfl
  have keyed : ∀ negative, (s negative).WellKeyed := by
    intro negative
    simp [s, zero, Entries.keys]
  have eq : (t false).equal (t true) = true := by decide +kernel
  exact ⟨compiled false, compiled true, keyed false, keyed true, eq,
    interchangeable_iff_sameMembers (compiled false) (compiled true) (keyed false) (keyed true) eq⟩

/-- One and `true` inside of a member make equal types that no value belongs to both of. -/
theorem equal_not_interchangeable :
    let s (v : Value) : Value := .object [("type", .text "string"), ("enum", .list [.list [v]])]
    let t (v : Value) : Descriptor := .enumeration [(.list [v], .list [v])]
    let host : Host := fun _ v => .ok v
    (compile .empty (s (.int 1))).outcome = .ok (t (.int 1)) ∧
      (compile .empty (s (.bool true))).outcome = .ok (t (.bool true)) ∧
      (t (.int 1)).equal (t (.bool true)) = true ∧
      ((t (.int 1)).check host (.list [.int 1])).outcome = .ok true ∧
      ((t (.bool true)).check host (.list [.int 1])).outcome = .ok false :=
  ⟨rfl, rfl, by decide +kernel, rfl, rfl⟩

end Conform
