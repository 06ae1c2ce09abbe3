import Conform.Proofs.Identity
import Mathlib.Data.Finset.Card

namespace Conform

/-- How values are hashed, and how hashes are put together. -/
structure Hashing (H : Type) where
  value : Value → H
  tuple : List H → H

/-- Equal values have the same hash, provided that they have one. -/
def Hashing.Respects {H : Type} (h : Hashing H) : Prop :=
  ∀ v w : Value, v.hashable = .ok () → v.looseEq w = true → h.value v = h.value w

namespace Identity

variable {H : Type} {x y z : Identity}

mutual

/-- What is only compared has no part in the hash. -/
def hash (h : Hashing H) : Identity → H
  | .value v => h.value v
  | .tuple items => h.tuple (hashAll h items)
  | .node title params _ => h.tuple (h.value (.text title) :: hashAll h params)

def hashAll (h : Hashing H) : List Identity → List H
  | [] => []
  | x :: xs => hash h x :: hashAll h xs

end

/-- Its values have distinct keys, and no number in them is undefined. -/
inductive Defined : Identity → Prop where
  | value {v : Value} (keyed : v.WellKeyed) (defined : v.Defined) : Defined (.value v)
  | tuple {items : List Identity} (parts : ∀ x ∈ items, Defined x) : Defined (.tuple items)
  | node {title : String} {params : List Identity} {callee : Option Callee}
      (parts : ∀ x ∈ params, Defined x)
      (keyed : ∀ v, callee = some (.value v) → v.WellKeyed ∧ v.Defined) :
      Defined (.node title params callee)

theorem equalAll_iff {xs ys : List Identity} :
    equalAll xs ys = true ↔ List.Forall₂ (fun x y => x.equal y = true) xs ys := by
  induction xs generalizing ys with
  | nil => cases ys <;> simp
  | cons x xs ih => cases ys <;> simp [ih]

theorem equalCallee_refl {f : Option Callee}
    (h : ∀ v, f = some (.value v) → v.WellKeyed ∧ v.Defined) : equalCallee f f = true := by
  rcases f with _ | f | v
  · rfl
  · exact beq_self_eq_true f
  · obtain ⟨keyed, defined⟩ := h v rfl
    exact Value.looseEq_refl keyed defined

theorem equalCallee_symm {f g : Option Callee}
    (hf : ∀ v, f = some (.value v) → v.WellKeyed ∧ v.Defined)
    (hg : ∀ v, g = some (.value v) → v.WellKeyed ∧ v.Defined) (h : equalCallee f g = true) :
    equalCallee g f = true := by
  rcases f with _ | f | v <;> rcases g with _ | g | w <;> try cases h
  · rfl
  · exact beq_iff_eq.2 (eq_of_beq h).symm
  · exact Value.looseEq_symm (hf v rfl).1 (hg w rfl).1 h

theorem equalCallee_trans {f g k : Option Callee} (h : equalCallee f g = true)
    (h' : equalCallee g k = true) : equalCallee f k = true := by
  rcases f with _ | f | v <;> rcases g with _ | g | w <;> try cases h
  · exact h'
  · rwa [show f = g from eq_of_beq h]
  · rcases k with _ | k | u <;> try cases h'
    exact Value.looseEq_trans h h'

theorem equal_refl (h : x.Defined) : x.equal x = true := by
  induction x with
  | value v =>
    cases h with
    | value keyed defined => exact Value.looseEq_refl keyed defined
  | tuple items ih =>
    cases h with
    | tuple parts => exact equalAll_iff.2 (List.forall₂_same.2 fun x hx => ih x hx (parts x hx))
  | node title params callee ih =>
    cases h with
    | node parts keyed =>
      have each := equalAll_iff.2 (List.forall₂_same.2 fun x hx => ih x hx (parts x hx))
      simp [each, equalCallee_refl keyed]

theorem equal_symm (hx : x.Defined) (hy : y.Defined) (h : x.equal y = true) :
    y.equal x = true := by
  have all : ∀ {xs ys : List Identity}, (∀ x ∈ xs, ∀ y ∈ ys, x.equal y = true → y.equal x = true) →
      equalAll xs ys = true → equalAll ys xs = true := by
    intro xs ys parts h
    rw [equalAll_iff] at h ⊢
    exact (forall₂_of_mem h parts).flip
  induction x generalizing y with
  | value v =>
    cases y with
    | value w =>
      cases hx with
      | value keyed =>
        cases hy with
        | value keyed' => exact Value.looseEq_symm keyed keyed' h
    | _ => cases h
  | tuple xs ih =>
    cases y with
    | tuple ys =>
      cases hx with
      | tuple left =>
        cases hy with
        | tuple right =>
          exact all (fun x hx y hy => ih x hx (left x hx) (right y hy)) h
    | _ => cases h
  | node s xs f ih =>
    cases y with
    | node t ys g =>
      cases hx with
      | node left callee =>
        cases hy with
        | node right callee' =>
          simp only [equal, Bool.and_eq_true, beq_iff_eq] at h ⊢
          obtain ⟨⟨title, params⟩, same⟩ := h
          refine ⟨⟨title.symm, ?_⟩, equalCallee_symm callee callee' same⟩
          exact all (fun x hx y hy => ih x hx (left x hx) (right y hy)) params
    | _ => cases h

theorem equal_trans (h : x.equal y = true) (k : y.equal z = true) : x.equal z = true := by
  have all : ∀ {xs ys zs : List Identity},
      (∀ x ∈ xs, ∀ y z, x.equal y = true → y.equal z = true → x.equal z = true) →
      equalAll xs ys = true → equalAll ys zs = true → equalAll xs zs = true := by
    intro xs ys zs parts h k
    rw [equalAll_iff] at h k ⊢
    have first : List.Forall₂ (fun x y => ∀ z, y.equal z = true → x.equal z = true) xs ys :=
      forall₂_of_mem h fun x hx y _ eq z => parts x hx y z eq
    exact forall₂_comp (fun _ _ z left right => left z right) first k
  induction x generalizing y z with
  | value v =>
    cases y with
    | value w =>
      cases z with
      | value u => exact Value.looseEq_trans h k
      | _ => cases k
    | _ => cases h
  | tuple xs ih =>
    cases y with
    | tuple ys =>
      cases z with
      | tuple zs => exact all (fun x hx _ _ => ih x hx) h k
      | _ => cases k
    | _ => cases h
  | node s xs f ih =>
    cases y with
    | node t ys g =>
      cases z with
      | node r zs e =>
        simp only [equal, Bool.and_eq_true, beq_iff_eq] at h k ⊢
        obtain ⟨⟨title, params⟩, same⟩ := h
        obtain ⟨⟨title', params'⟩, same'⟩ := k
        exact ⟨⟨title.trans title', all (fun x hx _ _ => ih x hx) params params'⟩,
          equalCallee_trans same same'⟩
      | _ => cases k
    | _ => cases h

theorem hashableAll_eq {xs ys : List Identity}
    (h : List.Forall₂ (fun x y => x.hashable = y.hashable) xs ys) :
    hashableAll xs = hashableAll ys := by
  induction h with
  | nil => rfl
  | cons first _ ih => rw [hashableAll, hashableAll, first, ih]

theorem hashable_eq (h : x.equal y = true) : x.hashable = y.hashable := by
  have all : ∀ {xs ys : List Identity},
      (∀ x ∈ xs, ∀ y, x.equal y = true → x.hashable = y.hashable) →
      equalAll xs ys = true → hashableAll xs = hashableAll ys := fun parts h =>
    hashableAll_eq (forall₂_of_mem (equalAll_iff.1 h) fun x hx y _ => parts x hx y)
  induction x generalizing y with
  | value v =>
    cases y with
    | value w => exact Value.hashable_eq_of_looseEq h
    | _ => cases h
  | tuple xs ih =>
    cases y with
    | tuple ys => exact all (fun x hx _ => ih x hx) h
    | _ => cases h
  | node s xs f ih =>
    cases y with
    | node t ys g =>
      simp only [equal, Bool.and_eq_true] at h
      exact all (fun x hx _ => ih x hx) h.1.2
    | _ => cases h

theorem hashableAll_ok {xs : List Identity} :
    hashableAll xs = .ok () ↔ ∀ x ∈ xs, x.hashable = .ok () := by
  induction xs with
  | nil => simp
  | cons x xs ih =>
    rw [hashableAll, except_bind_ok, List.forall_mem_cons, ← ih]
    exact ⟨fun ⟨_, first, rest⟩ => ⟨first, rest⟩, fun ⟨first, rest⟩ => ⟨(), first, rest⟩⟩

theorem hash_eq {h : Hashing H} (respects : h.Respects) (eq : x.equal y = true)
    (hashable : x.hashable = .ok ()) : x.hash h = y.hash h := by
  have all : ∀ {xs ys : List Identity},
      (∀ x ∈ xs, ∀ y, x.equal y = true → x.hashable = .ok () → x.hash h = y.hash h) →
      equalAll xs ys = true → hashableAll xs = .ok () → hashAll h xs = hashAll h ys := by
    intro xs ys parts eq hashable
    rw [hashableAll_ok] at hashable
    have each : List.Forall₂ (fun x y => x.hash h = y.hash h) xs ys :=
      forall₂_of_mem (equalAll_iff.1 eq) fun x hx y _ eq => parts x hx y eq (hashable x hx)
    clear eq hashable parts
    induction each with
    | nil => rfl
    | cons first _ ih => rw [hashAll, hashAll, first, ih]
  induction x generalizing y with
  | value v =>
    cases y with
    | value w => exact respects v w hashable eq
    | _ => cases eq
  | tuple xs ih =>
    cases y with
    | tuple ys =>
      rw [Identity.hash, Identity.hash, all (fun x hx _ => ih x hx) eq hashable]
    | _ => cases eq
  | node s xs f ih =>
    cases y with
    | node t ys g =>
      simp only [equal, Bool.and_eq_true, beq_iff_eq] at eq
      rw [Identity.hash, Identity.hash, eq.1.1, all (fun x hx _ => ih x hx) eq.1.2 hashable]
    | _ => cases eq

end Identity

end Conform
