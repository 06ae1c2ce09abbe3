import Conform.Descriptor.Conform
import Conform.Proofs.Outcomes
import Conform.Proofs.Values

namespace Conform

/-- The text is there just if nothing is too long to be written, and there is no other reason for it
not to be. -/
def Spells {α : Type} (writable : Prop) (x : Except Fault α) : Prop :=
  (writable ∧ ∃ a, x = .ok a) ∨ ¬writable ∧ x = .error .numberTooLong

namespace Spells

variable {α β : Type} {P Q : Prop} {x : Except Fault α}

theorem ok (a : α) : Spells True (.ok a : Except Fault α) :=
  .inl ⟨trivial, a, rfl⟩

theorem congr (h : Spells P x) (same : Q ↔ P) : Spells Q x := by
  rwa [Spells, same]

theorem bind {f : α → Except Fault β} (h : Spells P x) (later : ∀ a, Spells Q (f a)) :
    Spells (P ∧ Q) (x >>= f) := by
  rcases h with ⟨writable, a, rfl⟩ | ⟨overlong, rfl⟩
  · exact (later a).congr (and_iff_right writable)
  · exact .inr ⟨fun both => overlong both.1, rfl⟩

theorem map (h : Spells P x) (f : α → β) : Spells P (x >>= fun a => pure (f a)) :=
  (h.bind fun a => ok (f a)).congr (by simp)

theorem mapM {P : α → Prop} {f : α → Except Fault β} {xs : List α}
    (each : ∀ x ∈ xs, Spells (P x) (f x)) : Spells (∀ x ∈ xs, P x) (xs.mapM f) := by
  induction xs with
  | nil => exact (ok []).congr (by simp)
  | cons x xs ih =>
    obtain ⟨first, rest⟩ := List.forall_mem_cons.1 each
    rw [List.mapM_cons]
    exact (first.bind fun y => (ih rest).map (y :: ·)).congr List.forall_mem_cons

theorem ok_iff (h : Spells P x) : (∃ a, x = .ok a) ↔ P := by
  rcases h with ⟨writable, spelled⟩ | ⟨overlong, rfl⟩
  · exact iff_of_true spelled writable
  · exact iff_of_false (by simp) overlong

theorem error_iff (h : Spells P x) {f : Fault} : x = .error f ↔ ¬P ∧ f = .numberTooLong := by
  rcases h with ⟨writable, a, rfl⟩ | ⟨overlong, rfl⟩
  · simp [writable]
  · simp [overlong, eq_comm]

end Spells

namespace Value

/-- No whole number in it has more digits than can be written. -/
inductive Writable : Value → Prop where
  | null : Writable .null
  | bool (b : Bool) : Writable (.bool b)
  | int {n : Int} (short : n.natAbs < Nat.pow 10 Text.longestNumber) : Writable (.int n)
  | float (x : Binary64) : Writable (.float x)
  | text (s : String) : Writable (.text s)
  | list {items : List Value} (parts : ∀ x ∈ items, x.Writable) : Writable (.list items)
  | tuple {items : List Value} (parts : ∀ x ∈ items, x.Writable) : Writable (.tuple items)
  | object {entries : List (String × Value)} (parts : ∀ entry ∈ entries, entry.2.Writable) :
      Writable (.object entries)

@[simp] theorem writable_int {n : Int} :
    (int n).Writable ↔ n.natAbs < Nat.pow 10 Text.longestNumber :=
  ⟨fun | .int short => short, .int⟩

@[simp] theorem writable_list {items : List Value} :
    (list items).Writable ↔ ∀ x ∈ items, x.Writable :=
  ⟨fun | .list parts => parts, .list⟩

@[simp] theorem writable_tuple {items : List Value} :
    (tuple items).Writable ↔ ∀ x ∈ items, x.Writable :=
  ⟨fun | .tuple parts => parts, .tuple⟩

@[simp] theorem writable_object {entries : List (String × Value)} :
    (object entries).Writable ↔ ∀ entry ∈ entries, entry.2.Writable :=
  ⟨fun | .object parts => parts, .object⟩

attribute [simp] Writable.null Writable.bool Writable.float Writable.text

/-- The least of the natural numbers that are too long. -/
def tooLong : Value :=
  .int (.ofNat (Nat.pow 10 Text.longestNumber))

theorem not_writable_tooLong : ¬tooLong.Writable := by
  rw [tooLong, writable_int]
  generalize Nat.pow 10 Text.longestNumber = limit
  exact Nat.lt_irrefl limit

theorem Writable.of_lookup {entries : List (String × Value)} {key : String} {x : Value}
    (h : (Value.object entries).Writable) (hx : entries.lookup key = some x) : x.Writable :=
  writable_object.1 h _ (Entries.mem_of_lookup hx)

theorem writtenItems_eq_mapM (items : List Value) : writtenItems items = items.mapM written := by
  induction items with
  | nil => rfl
  | cons x items ih => rw [writtenItems, List.mapM_cons, ih]

theorem writtenEntries_eq_mapM (entries : List (String × Value)) :
    writtenEntries entries = entries.mapM fun entry =>
      entry.2.written >>= fun first => pure (Text.quoted entry.1 ++ ": " ++ first) := by
  induction entries with
  | nil => rfl
  | cons entry entries ih =>
    rw [writtenEntries, List.mapM_cons, ih]
    cases entry.2.written <;> rfl

theorem spells_written (v : Value) : Spells v.Writable v.written := by
  induction v with
  | null | bool | float | text => exact (Spells.ok _).congr (by simp)
  | int n =>
    rw [written]
    split
    · rename_i short
      exact .inl ⟨.int short, _, rfl⟩
    · rename_i long
      exact .inr ⟨mt writable_int.1 long, rfl⟩
  | list items ih | tuple items ih =>
    rw [written, writtenItems_eq_mapM]
    exact ((Spells.mapM ih).map _).congr (by simp)
  | object entries ih =>
    rw [written, writtenEntries_eq_mapM]
    exact ((Spells.mapM fun entry mem => (ih entry mem).map _).map _).congr (by simp)

theorem spells_plain (v : Value) : Spells v.Writable v.plain := by
  cases v with
  | text s => exact (Spells.ok s).congr (by simp)
  | _ => exact spells_written _

end Value

namespace Predicate

/-- No parameter of a single constraint in it is too long to be written. -/
def Writable (p : Predicate) : Prop :=
  ∀ leaf ∈ p.leaves, ∀ v ∈ leaf.parameters, v.Writable

theorem spells_text (p : Predicate) : Spells p.Writable p.text := by
  induction p with
  | both left right ihl ihr =>
    exact (ihl.bind fun _ => ihr.map _).congr (by simp [Writable, leaves, or_imp, forall_and])
  | _ =>
    exact ((Spells.mapM fun v _ => v.spells_written).map _).congr (by simp [Writable, leaves])

end Predicate

namespace Error

/-- The type that an error is about. -/
def type? : Error → Option Descriptor
  | .invalidValue _ t => some t
  | _ => none

/-- What the message tells of can be written. -/
def Writable : Error → Prop
  | .duplicateFormat name => name.Writable
  | .unknownFormat name => name.Writable
  | .enumLengthMismatch node =>
    ∀ keyword ∈ ["enumNames", "enum"], ∀ v, node.get? keyword = some v → v.Writable
  | .unsupportedSchema node _ => node.Writable
  | .invalidInput input => input.Writable
  | .invalidValue v t => v.Writable ∧ ∃ s, t.text = .ok s
  | .uncallableFormat name => name.Writable
  | .pattern _ => True
  | .fault _ => True

theorem spells_under (node : Value) (keyword : String) :
    Spells (∀ v, node.get? keyword = some v → v.Writable) (under node keyword) := by
  unfold under
  cases node.get? keyword with
  | none => exact (Spells.ok _).congr (by simp)
  | some v => exact v.spells_written.congr (by simp)

/-- A type can lack a text for other reasons than numbers, any other part of a message cannot. -/
theorem spells_detail {e : Error} (untyped : e.type? = none) :
    Spells e.Writable e.detail := by
  cases e with
  | duplicateFormat name | unknownFormat name | uncallableFormat name =>
    exact name.spells_plain.map _
  | enumLengthMismatch node =>
    refine ((spells_under node "enumNames").bind fun _ => (spells_under node "enum").map _).congr ?_
    simp [Writable]
  | unsupportedSchema node reason =>
    cases reason with
    | none | some => exact node.spells_written.map _
  | invalidInput input => exact input.spells_written.map _
  | invalidValue => cases untyped
  | pattern | fault => exact Spells.ok _

theorem raised_of_ok {e : Error} {s : String} (h : e.detail = .ok s) : e.raised = e := by
  rw [raised, h]

theorem raised_of_error {e : Error} {f : Fault} (h : e.detail = .error f) :
    e.raised = .fault f := by
  rw [raised, h]

theorem raised_of_writable {e : Error} (untyped : e.type? = none)
    (writable : e.Writable) : e.raised = e := by
  obtain ⟨_, spelled⟩ := (spells_detail untyped).ok_iff.2 writable
  exact raised_of_ok spelled

theorem raised_of_overlong {e : Error} (untyped : e.type? = none)
    (overlong : ¬e.Writable) : e.raised = .fault .numberTooLong :=
  raised_of_error ((spells_detail untyped).error_iff.2 ⟨overlong, rfl⟩)

/-- A node is written out as a whole where it is refused. -/
theorem raised_unsupportedSchema (n : Value) (reason : Option Reason) :
    (n.Writable → raised (.unsupportedSchema n reason) = .unsupportedSchema n reason) ∧
      (¬n.Writable → raised (.unsupportedSchema n reason) = .fault .numberTooLong) :=
  ⟨fun writable => raised_of_writable rfl writable,
    fun overlong => raised_of_overlong rfl overlong⟩

/-- The name that an error of a registry is about. -/
def name? : Error → Option Value
  | .duplicateFormat name => some name
  | .unknownFormat name => some name
  | .uncallableFormat name => some name
  | _ => none

theorem raised_of_name {e : Error} {name : Value} (told : e.name? = some name) :
    (name.Writable → e.raised = e) ∧ (¬name.Writable → e.raised = .fault .numberTooLong) := by
  have untyped : e.type? = none := by
    cases e <;> first | rfl | cases told
  have same : e.Writable ↔ name.Writable := by
    cases e <;> cases told <;> rfl
  exact ⟨fun writable => raised_of_writable untyped (same.2 writable),
    fun overlong => raised_of_overlong untyped (mt same.1 overlong)⟩

end Error
end Conform
