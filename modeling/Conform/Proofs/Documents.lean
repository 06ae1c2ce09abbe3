import Conform.Kind
import Conform.Proofs.Outcomes
import Conform.Proofs.Values
import Conform.Value.Equality

namespace Conform.Value

/-- The same document, written in whatever way. Only defined quantities are the same. -/
inductive Same : Value → Value → Prop where
  | null : Same .null .null
  | bool (b : Bool) : Same (.bool b) (.bool b)
  | text (s : String) : Same (.text s) (.text s)
  | number {a b : Value} {q : Quantity} (left : Kind.number.accepts a = true)
      (right : Kind.number.accepts b = true) (ha : a.quantity? = some q)
      (hb : b.quantity? = some q) (defined : q ≠ .undefined) : Same a b
  | items {a b : Value} {xs ys : List Value} (ha : a.items? = some xs) (hb : b.items? = some ys)
      (length : xs.length = ys.length) (each : ∀ x y, (x, y) ∈ xs.zip ys → Same x y) : Same a b
  | object {xs ys : List (String × Value)}
      (keys : ∀ k, (xs.lookup k).isSome = (ys.lookup k).isSome)
      (each : ∀ k x y, xs.lookup k = some x → ys.lookup k = some y → Same x y) :
      Same (.object xs) (.object ys)

theorem documentEqItems_iff {xs ys : List Value} :
    documentEqItems xs ys = true ↔ List.Forall₂ (fun x y => x.documentEq y = true) xs ys := by
  induction xs generalizing ys with
  | nil => cases ys <;> simp [documentEqItems]
  | cons x xs ih => cases ys <;> simp [documentEqItems, ih]

/-- Every entry on the left has a counterpart under its key on the right. -/
theorem all_lookup_iff {eq : Value → Value → Bool} {xs ys : List (String × Value)} :
    (xs.all fun (k, x) => match ys.lookup k with | some y => eq x y | none => false) = true ↔
      ∀ k x, (k, x) ∈ xs → ∃ y, ys.lookup k = some y ∧ eq x y = true := by
  rw [List.all_eq_true, Prod.forall]
  refine forall₂_congr fun k x => imp_congr_right fun _ => ?_
  cases found : ys.lookup k <;> simp [found]

theorem documentEqEntries_iff {xs ys : List (String × Value)} :
    documentEqEntries xs ys = true ↔
      ∀ k x, (k, x) ∈ xs → ∃ y, ys.lookup k = some y ∧ x.documentEq y = true := by
  rw [← all_lookup_iff, ← Bool.eq_iff_iff]
  induction xs with
  | nil => rfl
  | cons entry rest ih => exact congrArg (and _) ih

theorem documentEq_of_items {a b : Value} {xs ys : List Value} (ha : a.items? = some xs)
    (hb : b.items? = some ys) : a.documentEq b = documentEqItems xs ys := by
  cases a <;> cases ha <;> cases b <;> cases hb <;> rw [documentEq]

/-- A sequence equals nothing but sequences. -/
theorem items_of_documentEq {a b : Value} {xs : List Value} (ha : a.items? = some xs)
    (h : a.documentEq b = true) : ∃ ys, b.items? = some ys := by
  cases b with
  | list ys | tuple ys => exact ⟨ys, rfl⟩
  | _ => cases a <;> cases ha <;> simp [documentEq, looseEq, equalQuantity, quantity?] at h

theorem Same.of_forall₂ {a b : Value} {xs ys : List Value} (ha : a.items? = some xs)
    (hb : b.items? = some ys) (h : List.Forall₂ Same xs ys) : Same a b :=
  .items ha hb h.length_eq fun _ _ hm => List.forall₂_zip h hm

/-- What is the same document as a sequence is a sequence, of the same documents. -/
theorem Same.items_right {a b : Value} {xs : List Value} (h : Same a b)
    (ha : a.items? = some xs) : ∃ ys, b.items? = some ys ∧ List.Forall₂ Same xs ys := by
  cases h with
  | items left right length each =>
    cases ha.symm.trans left
    exact ⟨_, right, List.forall₂_iff_zip.2 ⟨length, fun hm => each _ _ hm⟩⟩
  | number left => cases a <;> cases left <;> cases ha
  | _ => cases ha

theorem exists_counterpart {xs ys : List (String × Value)} {k : String} {x : Value}
    (keys : ∀ k, (xs.lookup k).isSome = (ys.lookup k).isSome) (hx : xs.lookup k = some x) :
    ∃ y, ys.lookup k = some y := by
  rw [← Option.isSome_iff_exists, ← keys, hx]
  rfl

theorem quantity_of_equalQuantity {a b : Value} (h : equalQuantity a b = true) :
    ∃ q, a.quantity? = some q ∧ b.quantity? = some q ∧ q ≠ .undefined := by
  unfold equalQuantity at h
  split at h
  · rename_i q r ha hb
    obtain ⟨rfl, defined⟩ := Quantity.equal_iff.1 h
    exact ⟨q, ha, hb, defined⟩
  · cases h

/-- Equal quantities make the same document of two numbers. -/
theorem Same.of_equalQuantity {a b : Value} (left : Kind.number.accepts a = true)
    (right : Kind.number.accepts b = true) (h : equalQuantity a b = true) : Same a b := by
  obtain ⟨q, ha, hb, defined⟩ := quantity_of_equalQuantity h
  exact .number left right ha hb defined

theorem Same.of_documentEqItems {a b : Value} {xs : List Value} (ha : a.items? = some xs)
    (parts : ∀ x ∈ xs, ∀ y, x.documentEq y = true → Same x y) (h : a.documentEq b = true) :
    Same a b := by
  obtain ⟨ys, hb⟩ := items_of_documentEq ha h
  rw [documentEq_of_items ha hb, documentEqItems_iff] at h
  have each := (List.forall₂_and_left _ _).2 ⟨parts, h⟩
  exact .of_forall₂ ha hb (each.imp fun _ _ ⟨part, eq⟩ => part _ eq)

theorem keys_subset_of_lookups {R : Value → Value → Prop} {xs ys : List (String × Value)}
    (forth : ∀ k x, xs.lookup k = some x → ∃ y, ys.lookup k = some y ∧ R x y) :
    Entries.keys xs ⊆ Entries.keys ys := by
  intro k hk
  obtain ⟨x, hx⟩ := Option.isSome_iff_exists.1 (Entries.mem_keys_iff.1 hk)
  obtain ⟨y, hy, _⟩ := forth k x hx
  exact Entries.mem_keys_iff.2 (by rw [hy]; rfl)

/-- Each entry has its counterpart, and no key on the right is without one on the left. -/
theorem Same.of_lookups {xs ys : List (String × Value)}
    (forth : ∀ k x, xs.lookup k = some x → ∃ y, ys.lookup k = some y ∧ Same x y)
    (back : Entries.keys ys ⊆ Entries.keys xs) : Same (.object xs) (.object ys) := by
  refine .object (fun k => ?_) fun k x y hx hy => ?_
  · rw [Bool.eq_iff_iff, ← Entries.mem_keys_iff, ← Entries.mem_keys_iff]
    exact ⟨@keys_subset_of_lookups _ _ _ forth k, @back k⟩
  · obtain ⟨z, hz, same⟩ := forth k x hx
    cases hy.symm.trans hz
    exact same

theorem Same.of_documentEqEntries {xs ys : List (String × Value)}
    (parts : ∀ entry ∈ xs, ∀ y, entry.2.documentEq y = true → Same entry.2 y)
    (h : (Value.object xs).documentEq (.object ys) = true) : Same (.object xs) (.object ys) := by
  rw [documentEq, Bool.and_eq_true, List.all_eq_true, documentEqEntries_iff] at h
  obtain ⟨back, forth⟩ := h
  refine .of_lookups (fun k x hx => ?_) fun k hk => ?_
  · have hm := Entries.mem_of_lookup hx
    obtain ⟨y, hy, eq⟩ := forth k x hm
    exact ⟨y, hy, parts _ hm y eq⟩
  · obtain ⟨entry, hm, rfl⟩ := List.mem_map.1 hk
    exact Entries.mem_keys_iff.2 (back entry hm)

theorem same_of_documentEq {a b : Value} (h : a.documentEq b = true) : Same a b := by
  induction a generalizing b with
  | null =>
    cases b <;> simp [documentEq, looseEq, equalQuantity, quantity?] at h
    exact .null
  | bool p =>
    cases b <;> simp [documentEq] at h
    subst h
    exact .bool p
  | text s =>
    cases b <;> simp [documentEq, looseEq, equalQuantity, quantity?] at h
    subst h
    exact .text s
  | int n =>
    cases b with
    | int | float => exact .of_equalQuantity rfl rfl (by simpa [documentEq, looseEq] using h)
    | _ => simp [documentEq, looseEq, equalQuantity, quantity?] at h
  | float x =>
    cases b with
    | int | float => exact .of_equalQuantity rfl rfl (by simpa [documentEq, looseEq] using h)
    | _ => simp [documentEq, looseEq, equalQuantity, quantity?] at h
  | list xs ih => exact .of_documentEqItems rfl (fun x hx _ eq => ih x hx eq) h
  | tuple xs ih => exact .of_documentEqItems rfl (fun x hx _ eq => ih x hx eq) h
  | object xs ih =>
    cases b with
    | object ys => exact .of_documentEqEntries (fun entry hm _ eq => ih entry hm eq) h
    | _ => simp [documentEq, looseEq, equalQuantity, quantity?] at h

/-- Only the left value needs distinct keys: its entries are the ones gone through. -/
theorem documentEq_of_same {a b : Value} (h : Same a b) (keyed : a.WellKeyed) :
    a.documentEq b = true := by
  induction h with
  | null | bool | text => simp [documentEq, looseEq]
  | @number a b q left right ha hb defined =>
    have eq : equalQuantity a b = true := by
      simp [equalQuantity, ha, hb, Quantity.equal_iff.2 ⟨rfl, defined⟩]
    cases a <;> cases left <;> cases b <;> cases right <;> simpa [documentEq, looseEq] using eq
  | items ha hb length _ ih =>
    rw [documentEq_of_items ha hb, documentEqItems_iff, List.forall₂_iff_zip]
    refine ⟨length, fun hm => ih _ _ hm ?_⟩
    exact keyed.of_items ha (List.of_mem_zip hm).1
  | @object xs ys keys _ ih =>
    rw [documentEq, Bool.and_eq_true, List.all_eq_true, documentEqEntries_iff]
    constructor
    · intro entry hm
      obtain ⟨k, y⟩ := entry
      show (xs.lookup k).isSome = true
      rw [keys, ← Entries.mem_keys_iff]
      exact List.mem_map.2 ⟨(k, y), hm, rfl⟩
    · intro k x hm
      have hx := Entries.lookup_of_mem (wellKeyed_object.1 keyed).1 hm
      obtain ⟨y, hy⟩ := exists_counterpart keys hx
      exact ⟨y, hy, ih k x y hx hy (keyed.of_lookup hx)⟩

theorem documentEq_iff_same {a b : Value} (keyed : a.WellKeyed) :
    a.documentEq b = true ↔ Same a b :=
  ⟨same_of_documentEq, fun h => documentEq_of_same h keyed⟩

theorem Same.symm {a b : Value} (h : Same a b) : Same b a := by
  induction h with
  | null => exact .null
  | bool b => exact .bool b
  | text s => exact .text s
  | number left right ha hb defined => exact .number right left hb ha defined
  | items ha hb length _ ih =>
    have back : List.Forall₂ (flip Same) _ _ := List.forall₂_iff_zip.2 ⟨length, fun hm => ih _ _ hm⟩
    exact .of_forall₂ hb ha back.flip
  | object keys _ ih => exact .object (fun k => (keys k).symm) fun k y x hy hx => ih k x y hx hy

theorem Same.trans {a b c : Value} (h : Same a b) (k : Same b c) : Same a c := by
  induction h generalizing c with
  | null => exact k
  | bool => exact k
  | text => exact k
  | @number a b q left right ha hb defined =>
    cases k with
    | number _ right' hb' hc _ =>
      cases hb.symm.trans hb'
      exact .number left right' ha hc defined
    | items hb' _ _ _ => cases b <;> cases right <;> cases hb'
    | _ => cases right
  | @items a b xs ys ha hb length _ ih =>
    obtain ⟨zs, hc, second⟩ := k.items_right hb
    have first : List.Forall₂ (fun x y => ∀ z, Same y z → Same x z) xs ys :=
      List.forall₂_iff_zip.2 ⟨length, fun hm _ => ih _ _ hm⟩
    exact .of_forall₂ ha hc (forall₂_comp (fun _ _ z left right => left z right) first second)
  | @object xs ys keys _ ih =>
    cases k with
    | object keys' each' =>
      refine .object (fun k => (keys k).trans (keys' k)) fun k x z hx hz => ?_
      obtain ⟨y, hy⟩ := exists_counterpart keys hx
      exact ih k x y hx hy (each' k y z hy hz)
    | number left' _ _ _ _ => cases left'
    | items hb _ _ _ => cases hb

/-- To be whole is a matter of the quantity. -/
theorem accepts_integer {v : Value} {q : Quantity} (number : Kind.number.accepts v = true)
    (hq : v.quantity? = some q) : Kind.integer.accepts v = q.isWhole := by
  cases v with
  | int n =>
    cases hq
    simp [Kind.accepts, Quantity.isWhole]
  | float x =>
    cases hq
    rfl
  | _ => cases number

theorem Same.accepts {v w : Value} (h : Same v w) (kind : Kind) :
    kind.accepts v = kind.accepts w := by
  cases h with
  | number left right ha hb =>
    cases kind with
    | integer => rw [accepts_integer left ha, accepts_integer right hb]
    | number => rw [left, right]
    | _ => cases v <;> cases left <;> cases w <;> cases right <;> rfl
  | items ha hb => cases v <;> cases ha <;> cases w <;> cases hb <;> cases kind <;> rfl
  | _ => cases kind <;> rfl

end Conform.Value
