import Conform.Proofs.Agreement
import Conform.Proofs.Documents
import Mathlib.Data.List.Perm.Basic

namespace Conform

namespace Value

/-- Itself or the same document. An undefined number is the former without being the latter. -/
def Stands (x y : Value) : Prop :=
  x = y ∨ Same x y

theorem Stands.symm {x y : Value} (h : Stands x y) : Stands y x :=
  h.imp Eq.symm Same.symm

/-- What stands for an item is the same document as all that the item is the same document as. -/
theorem Stands.same {x x' y y' : Value} (hx : Stands x x') (hy : Stands y y') (h : Same x y) :
    Same x' y' := by
  have left : Same x' y := by
    rcases hx with rfl | same
    · exact h
    · exact same.symm.trans h
  rcases hy with rfl | same
  · exact left
  · exact left.trans same

theorem Stands.same_iff {x x' y y' : Value} (hx : Stands x x') (hy : Stands y y') :
    Same x y ↔ Same x' y' :=
  ⟨hx.same hy, hx.symm.same hy.symm⟩

/-- No two of these are the same document. -/
abbrev Apart (xs : List Value) : Prop :=
  xs.Pairwise fun x y => ¬Same x y

theorem allDistinct_iff_apart {xs : List Value} (keyed : ∀ x ∈ xs, x.WellKeyed) :
    allDistinct xs = true ↔ Apart xs := by
  rw [Schema.allDistinct_eq, decide_eq_true_iff]
  apply List.Pairwise.iff_of_mem
  intro x y hx _
  rw [← documentEq_iff_same (keyed x hx), Bool.not_eq_true]

theorem apart_perm {xs ys : List Value} (order : xs.Perm ys) : Apart xs ↔ Apart ys :=
  order.pairwise_iff fun h => mt Same.symm h

theorem apart_of_stands {xs ys : List Value} (each : List.Forall₂ Stands xs ys) (h : Apart xs) :
    Apart ys := by
  induction each with
  | nil => exact .nil
  | cons first rest ih =>
    obtain ⟨others, later⟩ := List.pairwise_cons.1 h
    refine List.pairwise_cons.2 ⟨fun y hy same => ?_, ih later⟩
    obtain ⟨x, hx, stands⟩ := exists_of_mem_forall₂ rest hy
    exact others x hx ((first.same_iff stands).2 same)

/-- The same items in another order, some of them replaced by what equals them as a document. -/
def Restated (xs ys : List Value) : Prop :=
  ∃ zs, xs.Perm zs ∧ List.Forall₂ (fun z y => z = y ∨ z.documentEq y = true) zs ys

theorem apart_restated {xs ys : List Value} (restated : Restated xs ys) : Apart xs ↔ Apart ys := by
  obtain ⟨zs, order, each⟩ := restated
  have stands : List.Forall₂ Stands zs ys :=
    each.imp fun z y h => h.imp_right same_of_documentEq
  have back : List.Forall₂ (flip Stands) zs ys := stands.imp fun _ _ h => h.symm
  rw [apart_perm order]
  exact ⟨apart_of_stands stands, apart_of_stands back.flip⟩

end Value

/-- Items are gone through whether they come as a list or as a tuple. -/
theorem Predicate.check_distinct (host : Host) {v : Value} {xs : List Value}
    (sequence : v.items? = some xs) : distinct.check host v = pure (allDistinct xs) := by
  cases v <;> cases sequence <;> rfl

/-- The constraint accepts a sequence just if no two positions hold equal documents, and it takes
all sequences alike that hold the same documents. -/
theorem distinct_by_documents (host : Host) {v : Value} {xs : List Value}
    (sequence : v.items? = some xs) (keyed : v.WellKeyed) :
    (∃ answer, Predicate.distinct.check host v = pure answer ∧
      (answer = true ↔ ∀ (i j : Nat) (x y : Value), i < j → xs[i]? = some x → xs[j]? = some y →
        x.documentEq y = false)) ∧
    (∀ w ys, w.items? = some ys → w.WellKeyed → Value.Restated xs ys →
      Predicate.distinct.check host w = Predicate.distinct.check host v) ∧
    ∀ w ys, w.items? = some ys → ys.Sublist xs →
      Predicate.distinct.check host v = pure true →
      Predicate.distinct.check host w = pure true := by
  have accepted : ∀ {w ys}, w.items? = some ys →
      (Predicate.distinct.check host w = pure true ↔ allDistinct ys = true) := by
    intro w ys hw
    rw [Predicate.check_distinct host hw]
    exact ⟨fun h => Except.ok.inj (congrArg Traced.outcome h), congrArg pure⟩
  refine ⟨⟨allDistinct xs, Predicate.check_distinct host sequence, ?_⟩, ?_, ?_⟩
  · rw [Schema.allDistinct_eq, decide_eq_true_iff, List.pairwise_iff_getElem]
    constructor
    · intro h i j x y before hx hy
      obtain ⟨hi, rfl⟩ := List.getElem?_eq_some_iff.1 hx
      obtain ⟨hj, rfl⟩ := List.getElem?_eq_some_iff.1 hy
      exact h i j hi hj before
    · intro h i j hi hj before
      exact h i j _ _ before (List.getElem?_eq_getElem hi) (List.getElem?_eq_getElem hj)
  · intro w ys hw keyed' restated
    rw [Predicate.check_distinct host hw, Predicate.check_distinct host sequence]
    congr 1
    rw [Bool.eq_iff_iff, Value.allDistinct_iff_apart fun y hy => keyed'.of_items hw hy,
      Value.allDistinct_iff_apart fun x hx => keyed.of_items sequence hx,
      Value.apart_restated restated]
  · intro w ys hw sub distinct
    rw [accepted sequence, Schema.allDistinct_eq, decide_eq_true_iff] at distinct
    rw [accepted hw, Schema.allDistinct_eq, decide_eq_true_iff]
    exact distinct.sublist sub

/-- The last item equals the first as a document though an undefined number and `true` stand between
them; without it the others are distinct, in any order and as a list or a tuple. -/
theorem distinct_by_documents_between :
    let whole : Value := .object [("n", .int 1), ("t", .tuple [])]
    let fraction : Value := .object [("t", .list []), ("n", .float (.finite false 1 0))]
    let nan : Value := .float .nan
    let v : Value := .list [whole, nan, .bool true, fraction]
    let w : Value := .tuple [.bool true, whole, nan]
    let u : Value := .list [fraction, nan, .bool true]
    let host : Host := fun _ v => .ok v
    v.items? = some [whole, nan, .bool true, fraction] ∧ w.WellKeyed ∧
      Predicate.distinct.check host v = pure false ∧
      Predicate.distinct.check host w = pure true ∧
      Value.Restated [.bool true, whole, nan] [fraction, nan, .bool true] ∧
      Predicate.distinct.check host u = pure true ∧
      Predicate.distinct.check host (.list [nan]) = pure true := by
  intro whole fraction nan v w u host
  have keyed : w.WellKeyed := by
    simp [w, whole, nan, Entries.keys]
  have keyed' : u.WellKeyed := by
    simp [u, fraction, nan, Entries.keys]
  have same : whole.documentEq fraction = true := by decide +kernel
  have restated : Value.Restated [.bool true, whole, nan] [fraction, nan, .bool true] := by
    refine ⟨[whole, nan, .bool true], (List.perm_append_singleton _ [whole, nan]).symm, ?_⟩
    exact .cons (.inr same) (.cons (.inl rfl) (.cons (.inl rfl) .nil))
  obtain ⟨⟨answer, _, _⟩, alike, fewer⟩ := distinct_by_documents host (v := w) rfl keyed
  have repeated : Predicate.distinct.check host v = pure false :=
    (Predicate.check_distinct host rfl).trans (congrArg pure (by decide +kernel))
  have distinct : Predicate.distinct.check host w = pure true :=
    (Predicate.check_distinct host rfl).trans (congrArg pure (by decide +kernel))
  refine ⟨rfl, keyed, repeated, distinct, restated, ?_, ?_⟩
  · rw [alike u _ rfl keyed' restated, distinct]
  · exact fewer _ _ rfl (.cons _ (.cons _ (.refl _))) distinct

end Conform
