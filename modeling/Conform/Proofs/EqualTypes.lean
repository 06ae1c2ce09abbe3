import Conform.Descriptor.Equality
import Conform.Proofs.EqualPredicates

namespace Conform

namespace Descriptor

theorem looseEq_of_equalMembers {ms ns : List (Value × Value)} (h : equalMembers ms ns = true) :
    List.Forall₂ (fun m n => m.1.looseEq n.1 = true) ms ns := by
  induction ms generalizing ns with
  | nil =>
    cases ns with
    | nil => exact .nil
    | cons => cases h
  | cons m ms ih =>
    cases ns with
    | nil => cases h
    | cons n ns =>
      simp only [equalMembers, Bool.and_eq_true] at h
      obtain ⟨⟨⟨_, first⟩, _⟩, rest⟩ := h
      exact .cons first (ih rest)

theorem equalAll_iff {ts us : List Descriptor} :
    equalAll ts us = true ↔ List.Forall₂ (fun t u => t.equal u = true) ts us := by
  induction ts generalizing us with
  | nil => cases us <;> simp [equalAll]
  | cons t ts ih => cases us <;> simp [equalAll, ih]

theorem equalFields_iff {fs gs : List (String × Descriptor)} :
    equalFields fs gs = true ↔
      List.Forall₂ (fun f g => f.1 = g.1 ∧ f.2.equal g.2 = true) fs gs := by
  induction fs generalizing gs with
  | nil => cases gs <;> simp [equalFields]
  | cons f fs ih => cases gs <;> simp [equalFields, ih]

theorem isMaybe_of_equal {t u : Descriptor} (h : t.equal u = true) : t.isMaybe = u.isMaybe := by
  cases t <;> cases u <;> first | rfl | cases h

theorem equal_of_lookup {fs gs : List (String × Descriptor)}
    (h : List.Forall₂ (fun f g => f.1 = g.1 ∧ f.2.equal g.2 = true) fs gs) {key : String}
    {t u : Descriptor} (ht : fs.lookup key = some t) (hu : gs.lookup key = some u) :
    t.equal u = true := by
  induction h with
  | nil => cases ht
  | @cons f g _ _ first _ ih =>
    obtain ⟨k, _⟩ := f
    obtain ⟨l, _⟩ := g
    obtain ⟨same, eq⟩ := first
    dsimp only at same eq
    subst same
    by_cases here : key = k
    · subst here
      rw [List.lookup_cons_self] at ht hu
      cases ht
      cases hu
      exact eq
    · simp only [List.lookup_cons, beq_false_of_ne here] at ht hu
      exact ih ht hu

theorem equal_of_getElem? {ts us : List Descriptor}
    (h : List.Forall₂ (fun t u => t.equal u = true) ts us) {i : Nat} {t u : Descriptor}
    (ht : ts[i]? = some t) (hu : us[i]? = some u) : t.equal u = true := by
  induction h generalizing i with
  | nil => cases ht
  | cons first _ ih =>
    cases i with
    | zero =>
      cases ht
      cases hu
      exact first
    | succ i => exact ih ht hu

/-- One step from equal types leads to equal types. -/
theorem equal_of_part {t u a b : Descriptor} {step : Step} (h : t.equal u = true)
    (ha : t.part? step = some a) (hb : u.part? step = some b) : a.equal b = true := by
  unfold part? at ha
  split at ha
  · cases u with
    | maybe =>
      cases ha
      cases hb
      exact h
    | _ => cases h
  · cases u with
    | list =>
      cases ha
      cases hb
      exact h
    | _ => cases h
  · cases u with
    | refined =>
      cases ha
      cases hb
      exact (Bool.and_eq_true_iff.1 h).1
    | _ => cases h
  · cases u with
    | struct => exact equal_of_lookup (equalFields_iff.1 (Bool.and_eq_true_iff.1 h).1) ha hb
    | _ => cases h
  · cases u with
    | tuple => exact equal_of_getElem? (equalAll_iff.1 h) ha hb
    | _ => cases h
  · cases u with
    | union => exact equal_of_getElem? (equalAll_iff.1 h) ha hb
    | _ => cases h
  · cases ha

/-- The part that a path leads to. -/
def partAt? : Descriptor → List Step → Option Descriptor
  | t, [] => some t
  | t, step :: path => (t.part? step).bind fun part => part.partAt? path

/-- Parts of two types that one path leads to. -/
def Facing (t u a b : Descriptor) : Prop :=
  ∃ path, t.partAt? path = some a ∧ u.partAt? path = some b

namespace Facing

variable {t u a b x y : Descriptor}

theorem here : Facing t u t u :=
  ⟨[], rfl, rfl⟩

theorem below (step : Step) (ha : t.part? step = some a) (hb : u.part? step = some b)
    (h : Facing a b x y) : Facing t u x y := by
  obtain ⟨path, hx, hy⟩ := h
  refine ⟨step :: path, ?_, ?_⟩
  · rw [partAt?, ha]
    exact hx
  · rw [partAt?, hb]
    exact hy

/-- What holds of two types, and passes from parts to their parts, holds wherever parts face each
other. -/
theorem induct {P : Descriptor → Descriptor → Prop}
    (step : ∀ {t u a b : Descriptor} {s : Step}, P t u → t.part? s = some a → u.part? s = some b →
      P a b) (start : P t u) (h : Facing t u a b) : P a b := by
  obtain ⟨path, ha, hb⟩ := h
  induction path generalizing t u with
  | nil =>
    cases ha
    cases hb
    exact start
  | cons s path ih =>
    obtain ⟨t', ht, ha⟩ := Option.bind_eq_some_iff.1 ha
    obtain ⟨u', hu, hb⟩ := Option.bind_eq_some_iff.1 hb
    exact ih (step start ht hu) ha hb

end Facing

end Descriptor
end Conform
