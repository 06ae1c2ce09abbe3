import Conform.Value.Basic

namespace Conform.Value

/-- Induction with one hypothesis for all parts of a list, a tuple or an object. -/
@[elab_as_elim, induction_eliminator]
theorem induct {P : Value → Prop} (null : P .null) (bool : ∀ b, P (.bool b))
    (int : ∀ n, P (.int n)) (float : ∀ x, P (.float x)) (text : ∀ s, P (.text s))
    (list : ∀ items, (∀ x ∈ items, P x) → P (.list items))
    (tuple : ∀ items, (∀ x ∈ items, P x) → P (.tuple items))
    (object : ∀ entries, (∀ entry ∈ entries, P entry.2) → P (.object entries)) (v : Value) :
    P v :=
  Value.rec (motive_1 := P) (motive_2 := fun items => ∀ x ∈ items, P x)
    (motive_3 := fun entries => ∀ entry ∈ entries, P entry.2) (motive_4 := fun entry => P entry.2)
    null bool int float text list tuple object
    (fun _ h => nomatch h) (fun _ _ first rest => List.forall_mem_cons.2 ⟨first, rest⟩)
    (fun _ h => nomatch h) (fun _ _ first rest => List.forall_mem_cons.2 ⟨first, rest⟩)
    (fun _ _ h => h) v

/-- The keys of every object in it are distinct, as they are in all that is built from pairs. -/
inductive WellKeyed : Value → Prop where
  | null : WellKeyed .null
  | bool (b : Bool) : WellKeyed (.bool b)
  | int (n : Int) : WellKeyed (.int n)
  | float (x : Binary64) : WellKeyed (.float x)
  | text (s : String) : WellKeyed (.text s)
  | list {items : List Value} (parts : ∀ x ∈ items, x.WellKeyed) : WellKeyed (.list items)
  | tuple {items : List Value} (parts : ∀ x ∈ items, x.WellKeyed) : WellKeyed (.tuple items)
  | object {entries : List (String × Value)} (distinct : (Entries.keys entries).Nodup)
      (parts : ∀ entry ∈ entries, entry.2.WellKeyed) : WellKeyed (.object entries)

@[simp] theorem wellKeyed_list {items : List Value} :
    (list items).WellKeyed ↔ ∀ x ∈ items, x.WellKeyed :=
  ⟨fun | .list parts => parts, .list⟩

@[simp] theorem wellKeyed_tuple {items : List Value} :
    (tuple items).WellKeyed ↔ ∀ x ∈ items, x.WellKeyed :=
  ⟨fun | .tuple parts => parts, .tuple⟩

@[simp] theorem wellKeyed_object {entries : List (String × Value)} :
    (object entries).WellKeyed ↔
      (Entries.keys entries).Nodup ∧ ∀ entry ∈ entries, entry.2.WellKeyed :=
  ⟨fun | .object distinct parts => ⟨distinct, parts⟩, fun h => .object h.1 h.2⟩

attribute [simp] WellKeyed.null WellKeyed.bool WellKeyed.int WellKeyed.float WellKeyed.text

/-- Repeated pairs do no harm: objects are well keyed by construction. -/
theorem wellKeyed_ofPairs {pairs : List (String × Value)}
    (h : ∀ pair ∈ pairs, pair.2.WellKeyed) : (ofPairs pairs).WellKeyed :=
  .object (Entries.nodup_keys_ofList pairs) fun entry hm => h entry (Entries.mem_of_mem_ofList hm)

theorem WellKeyed.of_items {v x : Value} {items : List Value} (h : v.WellKeyed)
    (hi : v.items? = some items) (hx : x ∈ items) : x.WellKeyed := by
  cases h with
  | list parts | tuple parts =>
    cases hi
    exact parts x hx
  | _ => cases hi

theorem WellKeyed.of_lookup {entries : List (String × Value)} {key : String} {x : Value}
    (h : (Value.object entries).WellKeyed) (hx : entries.lookup key = some x) : x.WellKeyed :=
  (wellKeyed_object.1 h).2 _ (Entries.mem_of_lookup hx)

end Conform.Value
