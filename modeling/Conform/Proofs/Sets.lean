import Conform.Proofs.Hashing
import Mathlib.Data.Finset.Card

namespace Conform

namespace Item

variable {H : Type}

def hash (h : Hashing H) (x : Item) : H :=
  x.identity.hash h

/-- An item is kept unless one that is kept already has its hash and equals it. -/
def collect [DecidableEq H] (h : Hashing H) (items : List Item) : List Item :=
  items.foldl
    (fun kept x => if kept.any fun y => y.hash h = x.hash h && y.equal x then kept
      else kept ++ [x]) []

theorem hash_eq {h : Hashing H} (respects : h.Respects) {x y : Item} (eq : x.equal y = true)
    (hashable : x.hashable = .ok ()) : x.hash h = y.hash h := by
  rw [← equal_identity] at eq
  rw [← hashable_identity] at hashable
  exact Identity.hash_eq respects eq hashable

theorem hashable_eq {x y : Item} (eq : x.equal y = true) : x.hashable = y.hashable := by
  rw [← hashable_identity, ← hashable_identity]
  exact Identity.hashable_eq ((equal_identity x y).trans eq)

theorem hashableAll_ok {items : List Item} :
    hashableAll items = .ok () ↔ ∀ x ∈ items, x.hashable = .ok () := by
  induction items with
  | nil => simp [hashableAll]
  | cons x rest ih =>
    rw [hashableAll, except_bind_ok, List.forall_mem_cons, ← ih]
    exact ⟨fun ⟨_, first, rest⟩ => ⟨first, rest⟩, fun ⟨first, rest⟩ => ⟨(), first, rest⟩⟩

theorem collect_eq_distinct [DecidableEq H] {h : Hashing H} (respects : h.Respects)
    {items : List Item} (hashable : ∀ x ∈ items, x.hashable = .ok ()) :
    collect h items = distinct items := by
  -- What is kept stays hashable, so an item that equals one of them has its hash.
  suffices ∀ kept : List Item, (∀ y ∈ kept, y.hashable = .ok ()) →
      items.foldl (fun kept x => if kept.any fun y => y.hash h = x.hash h && y.equal x then kept
        else kept ++ [x]) kept =
      items.foldl (fun kept x => if kept.any (·.equal x) then kept else kept ++ [x]) kept from
    this [] (by simp)
  induction items with
  | nil => exact fun _ _ => rfl
  | cons x rest ih =>
    intro kept hk
    obtain ⟨first, later⟩ := List.forall_mem_cons.1 hashable
    have same : (kept.any fun y => y.hash h = x.hash h && y.equal x) = kept.any (·.equal x) := by
      rw [Bool.eq_iff_iff, List.any_eq_true, List.any_eq_true]
      refine exists_congr fun y => and_congr_right fun hy => ?_
      rw [Bool.and_eq_true, decide_eq_true_iff]
      exact and_iff_right_of_imp fun eq => hash_eq respects eq (hk y hy)
    rw [List.foldl_cons, List.foldl_cons, same]
    split
    · exact ih later kept hk
    · refine ih later _ fun y hy => ?_
      rcases List.mem_append.1 hy with hy | hy
      · exact hk y hy
      · rwa [List.mem_singleton.1 hy]

end Item

/-- An item whose values have distinct keys and hold no undefined number. -/
abbrev DefinedItem : Type :=
  {x : Item // x.identity.Defined}

namespace DefinedItem

theorem equal_equivalence : Equivalence fun x y : DefinedItem => x.1.equal y.1 = true where
  refl x := by
    rw [← Item.equal_identity]
    exact Identity.equal_refl x.2
  symm {x y} h := by
    rw [← Item.equal_identity] at h ⊢
    exact Identity.equal_symm x.2 y.2 h
  trans h k := by
    rw [← Item.equal_identity] at h k ⊢
    exact Identity.equal_trans h k

instance setoid : Setoid DefinedItem :=
  ⟨_, equal_equivalence⟩

instance : DecidableRel fun x y : DefinedItem => x ≈ y := fun x y =>
  inferInstanceAs (Decidable (x.1.equal y.1 = true))

/-- The classes of equal items among some. -/
def classes (items : List DefinedItem) : Finset (Quotient setoid) :=
  (items.map (Quotient.mk setoid)).toFinset

theorem classes_perm {items items' : List DefinedItem} (order : items.Perm items') :
    classes items = classes items' :=
  List.toFinset_eq_of_perm _ _ (order.map _)

theorem any_equal {kept : List DefinedItem} {x : DefinedItem} :
    ((kept.map (·.1)).any fun y => y.equal x.1) = true ↔
      Quotient.mk setoid x ∈ kept.map (Quotient.mk setoid) := by
  rw [List.any_map, List.any_eq_true, List.mem_map]
  exact exists_congr fun y => and_congr_right fun _ => (@Quotient.eq _ setoid y x).symm

/-- What is kept in the end are items of different classes, and every class that came by. -/
theorem foldl_distinct (items kept : List DefinedItem)
    (different : (kept.map (Quotient.mk setoid)).Nodup) :
    ∃ found : List DefinedItem, (items.map (·.1)).foldl
        (fun kept x => if kept.any (·.equal x) then kept else kept ++ [x]) (kept.map (·.1)) =
          found.map (·.1) ∧
      (found.map (Quotient.mk setoid)).Nodup ∧
      ∀ c, c ∈ found.map (Quotient.mk setoid) ↔
        c ∈ kept.map (Quotient.mk setoid) ∨ c ∈ items.map (Quotient.mk setoid) := by
  induction items generalizing kept with
  | nil => exact ⟨kept, rfl, different, by simp⟩
  | cons x rest ih =>
    rw [List.map_cons, List.foldl_cons]
    split
    · rename_i known
      obtain ⟨found, eq, nodup, members⟩ := ih kept different
      refine ⟨found, eq, nodup, fun c => (members c).trans ?_⟩
      rw [List.map_cons, List.mem_cons, ← or_assoc]
      refine or_congr_left (or_iff_left_of_imp ?_).symm
      rintro rfl
      exact any_equal.1 known
    · rename_i fresh
      have apart : (Quotient.mk setoid x) ∉ kept.map (Quotient.mk setoid) :=
        fun known => fresh (any_equal.2 known)
      have nodup : ((kept ++ [x]).map (Quotient.mk setoid)).Nodup := by
        rw [List.map_append]
        exact List.Nodup.append different (List.nodup_singleton _) (by simpa using apart)
      obtain ⟨found, eq, nodup, members⟩ := ih (kept ++ [x]) nodup
      rw [List.map_append] at eq
      refine ⟨found, eq, nodup, fun c => (members c).trans ?_⟩
      simp [or_assoc]

theorem length_distinct (items : List DefinedItem) :
    (Item.distinct (items.map (·.1))).length = (classes items).card := by
  obtain ⟨found, eq, nodup, members⟩ := foldl_distinct items [] List.nodup_nil
  have same : classes found = classes items := by
    ext c
    rw [classes, classes, List.mem_toFinset, List.mem_toFinset, members]
    simp
  rw [← same, classes, List.toFinset_card_of_nodup nodup, List.length_map]
  exact (congrArg List.length eq).trans (List.length_map _)

end DefinedItem

/-- Equality is an equivalence that keeps types and predicates apart, equals have one hash or none,
and sets hold as many items as there are classes, in whatever order they come. -/
theorem equal_hash_lawful {H : Type} [DecidableEq H] (h : Hashing H) (respects : h.Respects) :
    (Equivalence fun x y : DefinedItem => x.1.equal y.1 = true) ∧
    (∀ t p, (Item.type t).equal (.predicate p) = false ∧
      (Item.predicate p).equal (.type t) = false) ∧
    (∀ x y : Item, x.equal y = true → (x.hashable = .ok () ↔ y.hashable = .ok ()) ∧
      (x.hashable = .ok () → x.hash h = y.hash h)) ∧
    ∀ items : List DefinedItem, (∀ x ∈ items, x.1.hashable = .ok ()) →
      (Item.collect h (items.map (·.1))).length = (DefinedItem.classes items).card ∧
      Item.count (items.map (·.1)) = .ok (DefinedItem.classes items).card ∧
      ∀ items' : List DefinedItem, items.Perm items' →
        (Item.collect h (items'.map (·.1))).length =
          (Item.collect h (items.map (·.1))).length := by
  have size : ∀ items : List DefinedItem, (∀ x ∈ items, x.1.hashable = .ok ()) →
      (Item.collect h (items.map (·.1))).length = (DefinedItem.classes items).card := by
    intro items hashable
    rw [Item.collect_eq_distinct respects (by simpa using hashable)]
    exact DefinedItem.length_distinct items
  refine ⟨DefinedItem.equal_equivalence, fun _ _ => ⟨rfl, rfl⟩, fun x y eq => ?_, ?_⟩
  · exact ⟨by rw [Item.hashable_eq eq], Item.hash_eq respects eq⟩
  · intro items hashable
    refine ⟨size items hashable, ?_, fun items' order => ?_⟩
    · have all : Item.hashableAll (items.map (·.1)) = .ok () :=
        Item.hashableAll_ok.2 (by simpa using hashable)
      rw [Item.count, all, ← DefinedItem.length_distinct]
      rfl
    · rw [size items hashable, DefinedItem.classes_perm order]
      exact size items' fun x hx => hashable x (order.mem_iff.2 hx)

/-- Hashed by their quantity, one and `true` come to a single item. -/
theorem equal_hash_lawful_quantity :
    let h : Hashing (List (Option Quantity)) := ⟨fun v => [v.quantity?], List.flatten⟩
    let one : Item := .predicate (.minLength (.int 1))
    let truth : Item := .predicate (.minLength (.bool true))
    let text : Item := .type (.primitive .string)
    h.Respects ∧ one.equal truth = true ∧ one.hashable = .ok () ∧ one.hash h = truth.hash h ∧
      (Item.collect h [one, truth, text]).length = 2 ∧
      (Item.collect h [text, truth, one]).length = 2 := by
  intro h one truth text
  have respects : h.Respects := fun v w _ eq =>
    congrArg (fun q => [q]) (Value.quantity_of_looseEq eq)
  have node : ∀ title v, v.WellKeyed → v.Defined →
      (Identity.node title [.value v] none).Defined := by
    intro title v keyed defined
    refine .node (fun x hx => ?_) nofun
    rw [List.mem_singleton.1 hx]
    exact .value keyed defined
  let items : List DefinedItem := [⟨one, node _ _ (.int 1) (.int 1)⟩,
    ⟨truth, node _ _ (.bool true) (.bool true)⟩, ⟨text, node _ _ (.text _) (.text _)⟩]
  obtain ⟨_, _, equals, sizes⟩ := equal_hash_lawful h respects
  have eq : one.equal truth = true := by decide
  have hashable : ∀ x ∈ items, x.1.hashable = .ok () := by
    intro x hx
    simp only [items, List.mem_cons, List.not_mem_nil, or_false] at hx
    rcases hx with rfl | rfl | rfl <;> rfl
  have two : (Item.collect h [one, truth, text]).length = 2 := by decide
  obtain ⟨_, _, order⟩ := sizes items hashable
  have back := order items.reverse items.reverse_perm.symm
  exact ⟨respects, eq, rfl, (equals one truth eq).2 rfl, two, back.trans two⟩

end Conform
