import Conform.Proofs.Documents
import Conform.Value.Access
import Mathlib.Data.List.Perm.Subperm

namespace Conform

namespace Value

theorem looseEqItems_iff {xs ys : List Value} :
    looseEqItems xs ys = true ↔ List.Forall₂ (fun x y => x.looseEq y = true) xs ys := by
  induction xs generalizing ys with
  | nil => cases ys <;> simp [looseEqItems]
  | cons x xs ih => cases ys <;> simp [looseEqItems, ih]

theorem quantity_of_looseEq {a b : Value} (h : a.looseEq b = true) :
    a.quantity? = b.quantity? := by
  unfold looseEq at h
  split at h
  · rfl
  · rfl
  · rfl
  · rfl
  · rfl
  · obtain ⟨q, ha, hb, _⟩ := quantity_of_equalQuantity h
    rw [ha, hb]

theorem looseEqEntries_iff {xs ys : List (String × Value)} :
    looseEqEntries xs ys = true ↔
      ∀ k x, (k, x) ∈ xs → ∃ y, ys.lookup k = some y ∧ x.looseEq y = true := by
  rw [← all_lookup_iff, ← Bool.eq_iff_iff]
  induction xs with
  | nil => rfl
  | cons entry rest ih => exact congrArg (and _) ih

theorem looseEq_of_quantity {a : Value} {q : Quantity} (h : a.quantity? = some q) (b : Value) :
    a.looseEq b = equalQuantity a b ∧ b.looseEq a = equalQuantity b a := by
  cases a with
  | bool | int | float => cases b <;> exact ⟨by rw [looseEq] <;> simp, by rw [looseEq] <;> simp⟩
  | _ => cases h

/-- The ways in which two values can be loosely equal. -/
inductive Loosely : Value → Value → Prop where
  | null : Loosely .null .null
  | quantity {a b : Value} {q : Quantity} (ha : a.quantity? = some q) (hb : b.quantity? = some q)
      (defined : q ≠ .undefined) : Loosely a b
  | text (s : String) : Loosely (.text s) (.text s)
  | list {xs ys : List Value} (each : List.Forall₂ (fun x y => x.looseEq y = true) xs ys) :
      Loosely (.list xs) (.list ys)
  | tuple {xs ys : List Value} (each : List.Forall₂ (fun x y => x.looseEq y = true) xs ys) :
      Loosely (.tuple xs) (.tuple ys)
  | object {xs ys : List (String × Value)} (length : xs.length = ys.length)
      (found : ∀ k x, (k, x) ∈ xs → ∃ y, ys.lookup k = some y ∧ x.looseEq y = true) :
      Loosely (.object xs) (.object ys)

theorem looseEq_iff {a b : Value} : a.looseEq b = true ↔ Loosely a b := by
  constructor
  · intro h
    unfold looseEq at h
    split at h
    · exact .null
    · rw [eq_of_beq h]
      exact .text _
    · exact .list (looseEqItems_iff.1 h)
    · exact .tuple (looseEqItems_iff.1 h)
    · rw [Bool.and_eq_true, beq_iff_eq, looseEqEntries_iff] at h
      exact .object h.1 h.2
    · obtain ⟨q, ha, hb, defined⟩ := quantity_of_equalQuantity h
      exact .quantity ha hb defined
  · intro h
    cases h with
    | null => rfl
    | quantity ha hb defined =>
      rw [(looseEq_of_quantity ha b).1]
      simp [equalQuantity, ha, hb, Quantity.equal_iff.2 ⟨rfl, defined⟩]
    | text => exact beq_self_eq_true _
    | list each | tuple each => exact looseEqItems_iff.2 each
    | object length found =>
      rw [looseEq, Bool.and_eq_true, beq_iff_eq, looseEqEntries_iff]
      exact ⟨length, found⟩

/-- What equals anything has no undefined number in it, so it is the same document as itself. -/
theorem same_self {a b : Value} (h : a.looseEq b = true) : Same a a := by
  have items : ∀ {v : Value} {xs ys : List Value}, v.items? = some xs →
      List.Forall₂ (fun x y => x.looseEq y = true) xs ys →
      (∀ x ∈ xs, ∀ y, x.looseEq y = true → Same x x) → Same v v := by
    intro v xs ys hv each parts
    refine .of_forall₂ hv hv (List.forall₂_same.2 fun x hx => ?_)
    obtain ⟨y, _, part⟩ := exists_of_mem_forall₂ each.flip hx
    exact parts x hx y part
  induction a generalizing b with
  | null => exact .null
  | bool p => exact .bool p
  | int n => exact .number rfl rfl rfl rfl (by simp)
  | text s => exact .text s
  | float x =>
    cases looseEq_iff.1 h with
    | quantity quantity _ defined => exact .number rfl rfl quantity quantity defined
  | list xs ih =>
    cases looseEq_iff.1 h with
    | quantity none => cases none
    | list each => exact items rfl each fun x hx y eq => ih x hx eq
  | tuple xs ih =>
    cases looseEq_iff.1 h with
    | quantity none => cases none
    | tuple each => exact items rfl each fun x hx y eq => ih x hx eq
  | object xs ih =>
    cases looseEq_iff.1 h with
    | quantity none => cases none
    | object _ found =>
      refine .object (fun _ => rfl) fun k x y hx hy => ?_
      cases hx.symm.trans hy
      have hm := Entries.mem_of_lookup hx
      obtain ⟨z, _, eq⟩ := found k x hm
      exact ih _ hm eq

/-- Keys that are all found among as many others leave none of the others out. -/
theorem keys_subset {xs ys : List (String × Value)} (distinct : (Entries.keys xs).Nodup)
    (length : xs.length = ys.length) (h : Entries.keys xs ⊆ Entries.keys ys) :
    Entries.keys ys ⊆ Entries.keys xs := by
  have short : (Entries.keys ys).length ≤ (Entries.keys xs).length := by
    simp [Entries.keys, length]
  exact ((List.Nodup.subperm distinct h).perm_of_length_le short).symm.subset

theorem looseEq_symm {a b : Value} (ha : a.WellKeyed) (hb : b.WellKeyed)
    (h : a.looseEq b = true) : b.looseEq a = true := by
  induction a generalizing b with
  | list xs ih =>
    cases looseEq_iff.1 h with
    | quantity none => cases none
    | list each =>
      rw [wellKeyed_list] at ha hb
      have parts := forall₂_of_mem each fun x hx y hy => ih x hx (ha x hx) (hb y hy)
      exact looseEq_iff.2 (.list parts.flip)
  | tuple xs ih =>
    cases looseEq_iff.1 h with
    | quantity none => cases none
    | tuple each =>
      rw [wellKeyed_tuple] at ha hb
      have parts := forall₂_of_mem each fun x hx y hy => ih x hx (ha x hx) (hb y hy)
      exact looseEq_iff.2 (.tuple parts.flip)
  | object xs ih =>
    cases looseEq_iff.1 h with
    | quantity none => cases none
    | @object _ ys length found =>
      obtain ⟨distinct, left⟩ := wellKeyed_object.1 ha
      obtain ⟨distinct', right⟩ := wellKeyed_object.1 hb
      refine looseEq_iff.2 (.object length.symm fun k y hy => ?_)
      -- Only the entries of `xs` were looked up; those of `ys` are no more, so they were all met.
      have forth : Entries.keys xs ⊆ Entries.keys ys :=
        keys_subset_of_lookups fun k x hx => found k x (Entries.mem_of_lookup hx)
      have back := keys_subset distinct length forth (List.mem_map.2 ⟨(k, y), hy, rfl⟩)
      obtain ⟨x, hx⟩ := Option.isSome_iff_exists.1 (Entries.mem_keys_iff.1 back)
      have hm := Entries.mem_of_lookup hx
      obtain ⟨z, hz, eq⟩ := found k x hm
      cases hz.symm.trans (Entries.lookup_of_mem distinct' hy)
      exact ⟨x, hx, ih _ hm (left _ hm) (right _ hy) eq⟩
  | _ =>
    cases looseEq_iff.1 h with
    | quantity left right defined => exact looseEq_iff.2 (.quantity right left defined)
    | _ => exact h

/-- No undefined number occurs in it. -/
inductive Defined : Value → Prop where
  | null : Defined .null
  | bool (b : Bool) : Defined (.bool b)
  | int (n : Int) : Defined (.int n)
  | float {x : Binary64} (number : x.quantity ≠ .undefined) : Defined (.float x)
  | text (s : String) : Defined (.text s)
  | list {items : List Value} (parts : ∀ x ∈ items, x.Defined) : Defined (.list items)
  | tuple {items : List Value} (parts : ∀ x ∈ items, x.Defined) : Defined (.tuple items)
  | object {entries : List (String × Value)} (parts : ∀ entry ∈ entries, entry.2.Defined) :
      Defined (.object entries)

theorem looseEq_refl {v : Value} (keyed : v.WellKeyed) (defined : v.Defined) :
    v.looseEq v = true := by
  induction v with
  | null => rfl
  | bool | int => exact looseEq_iff.2 (.quantity rfl rfl nofun)
  | float x =>
    cases defined with
    | float number => exact looseEq_iff.2 (.quantity rfl rfl number)
  | text s => exact looseEq_iff.2 (.text s)
  | list xs ih =>
    cases defined with
    | list parts =>
      rw [wellKeyed_list] at keyed
      have each : ∀ x ∈ xs, x.looseEq x = true := fun x hx => ih x hx (keyed x hx) (parts x hx)
      exact looseEq_iff.2 (.list (List.forall₂_same.2 each))
  | tuple xs ih =>
    cases defined with
    | tuple parts =>
      rw [wellKeyed_tuple] at keyed
      have each : ∀ x ∈ xs, x.looseEq x = true := fun x hx => ih x hx (keyed x hx) (parts x hx)
      exact looseEq_iff.2 (.tuple (List.forall₂_same.2 each))
  | object xs ih =>
    cases defined with
    | object parts =>
      obtain ⟨distinct, keyed⟩ := wellKeyed_object.1 keyed
      refine looseEq_iff.2 (.object rfl fun k x hm => ?_)
      exact ⟨x, Entries.lookup_of_mem distinct hm, ih _ hm (keyed _ hm) (parts _ hm)⟩

theorem looseEq_trans {a b c : Value} (h : a.looseEq b = true) (k : b.looseEq c = true) :
    a.looseEq c = true := by
  have items : ∀ {xs ys zs : List Value}, List.Forall₂ (fun x y => x.looseEq y = true) xs ys →
      List.Forall₂ (fun y z => y.looseEq z = true) ys zs →
      (∀ x ∈ xs, ∀ y z, x.looseEq y = true → y.looseEq z = true → x.looseEq z = true) →
        List.Forall₂ (fun x z => x.looseEq z = true) xs zs := by
    intro xs ys zs h k parts
    have first : List.Forall₂ (fun x y => ∀ z, y.looseEq z = true → x.looseEq z = true) xs ys :=
      forall₂_of_mem h fun x hx y _ eq z => parts x hx y z eq
    exact forall₂_comp (fun _ _ z left right => left z right) first k
  induction a generalizing b c with
  | list xs ih =>
    cases looseEq_iff.1 h with
    | quantity none => cases none
    | list each =>
      cases looseEq_iff.1 k with
      | quantity none => cases none
      | list each' => exact looseEq_iff.2 (.list (items each each' fun x hx _ _ => ih x hx))
  | tuple xs ih =>
    cases looseEq_iff.1 h with
    | quantity none => cases none
    | tuple each =>
      cases looseEq_iff.1 k with
      | quantity none => cases none
      | tuple each' => exact looseEq_iff.2 (.tuple (items each each' fun x hx _ _ => ih x hx))
  | object xs ih =>
    cases looseEq_iff.1 h with
    | quantity none => cases none
    | object length found =>
      cases looseEq_iff.1 k with
      | quantity none => cases none
      | object length' found' =>
        refine looseEq_iff.2 (.object (length.trans length') fun key x hm => ?_)
        obtain ⟨y, hy, eq⟩ := found key x hm
        obtain ⟨z, hz, eq'⟩ := found' key y (Entries.mem_of_lookup hy)
        exact ⟨z, hz, ih _ hm eq eq'⟩
  | _ =>
    cases looseEq_iff.1 h with
    | quantity left right defined =>
      have same := quantity_of_looseEq k
      exact looseEq_iff.2 (.quantity left (same ▸ right) defined)
    | _ => exact k

theorem hashable_of_quantity {v : Value} {q : Quantity} (h : v.quantity? = some q) :
    v.hashable = .ok () := by
  cases v with
  | bool | int | float => rfl
  | _ => cases h

/-- Equal values can be hashed or not for one reason. -/
theorem hashable_eq_of_looseEq {a b : Value} (h : a.looseEq b = true) :
    a.hashable = b.hashable := by
  induction a generalizing b with
  | tuple xs ih =>
    cases looseEq_iff.1 h with
    | quantity none => cases none
    | @tuple _ ys each =>
      have parts : List.Forall₂ (fun x y => x.hashable = y.hashable) xs ys :=
        forall₂_of_mem each fun x hx _ _ eq => ih x hx eq
      show hashableItems xs = hashableItems ys
      clear h ih each
      induction parts with
      | nil => rfl
      | cons first _ ih => rw [hashableItems, hashableItems, first, ih]
  | _ =>
    cases looseEq_iff.1 h with
    | quantity left right => rw [hashable_of_quantity left, hashable_of_quantity right]
    | _ => rfl

end Value

end Conform
