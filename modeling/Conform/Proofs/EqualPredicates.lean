import Conform.Proofs.Constraints
import Conform.Proofs.Correspondence
import Conform.Proofs.LooseEquality

namespace Conform

namespace Value

/-- Equal values are equal to the same values. -/
theorem looseEq_congr {l m : Value} (h : l.looseEq m = true) (hl : l.WellKeyed)
    (hm : m.WellKeyed) (x : Value) : x.looseEq l = x.looseEq m := by
  have back : m.looseEq l = true := looseEq_symm hl hm h
  exact Bool.eq_iff_iff.2 ⟨fun eq => looseEq_trans eq h, fun eq => looseEq_trans eq back⟩

/-- A limit that counts as a number is compared by its quantity, whatever the value is. -/
theorem compare_quantity {limit : Value} {q : Quantity} (relation : Relation)
    (hq : limit.quantity? = some q) (v : Value) :
    v.compare relation limit = match v.quantity? with
      | some x => .ok (relation.holds Quantity.less Quantity.atMost x q)
      | none => .error (.unordered relation v.form limit.form) := by
  cases limit with
  | bool | int | float =>
    cases hq
    cases v <;> rfl
  | _ => cases hq

theorem alike_compare_quantity {l m : Value} {q : Quantity} (relation : Relation)
    (hl : l.quantity? = some q) (hm : m.quantity? = some q) (v : Value) :
    Alike (.lift (v.compare relation l)) (.lift (v.compare relation m)) := by
  rw [compare_quantity relation hl, compare_quantity relation hm]
  cases v.quantity? <;> rfl

/-- Items are passed over on both sides alike, up to the first that differs from its limit. -/
theorem alike_compareItems {relation : Relation} {xs ys zs : List Value}
    (parts : ∀ x ∈ xs, ∀ y z : Value, y.looseEq z = true → y.WellKeyed → z.WellKeyed →
      Alike (.lift (x.compare relation y)) (.lift (x.compare relation z)))
    (same : List.Forall₂ (fun y z => y.looseEq z = true) ys zs) (hy : ∀ y ∈ ys, y.WellKeyed)
    (hz : ∀ z ∈ zs, z.WellKeyed) :
    Alike (.lift (compareItems relation xs ys)) (.lift (compareItems relation xs zs)) := by
  induction same generalizing xs with
  | nil => rfl
  | @cons y z ys zs first rest ih =>
    rw [List.forall_mem_cons] at hy hz
    cases xs with
    | nil =>
      -- The shorter sequence comes first, and the two limits are of one length.
      have ends : ∀ w ws, compareItems relation [] (w :: ws) =
          .ok (relation.holds (· < ·) (· ≤ ·) 0 (ws.length + 1)) := fun _ _ => rfl
      rw [ends, ends, rest.length_eq]
      rfl
    | cons x xs =>
      rw [List.forall_mem_cons] at parts
      rw [compareItems, compareItems, looseEq_congr first hy.1 hz.1 x]
      split
      · exact ih parts.2 hy.2 hz.2
      · exact parts.1 y z first hy.1 hz.1

/-- Equal limits are alike to every value. -/
theorem alike_compare {l m : Value} (h : l.looseEq m = true) (hl : l.WellKeyed)
    (hm : m.WellKeyed) (relation : Relation) (v : Value) :
    Alike (.lift (v.compare relation l)) (.lift (v.compare relation m)) := by
  induction v generalizing l m with
  | list xs ih =>
    cases looseEq_iff.1 h with
    | quantity hl hm => exact alike_compare_quantity relation hl hm _
    | list each =>
      rw [wellKeyed_list] at hl hm
      exact alike_compareItems (fun x hx _ _ eq ky kz => ih x hx eq ky kz) each hl hm
    | _ => rfl
  | tuple xs ih =>
    cases looseEq_iff.1 h with
    | quantity hl hm => exact alike_compare_quantity relation hl hm _
    | tuple each =>
      rw [wellKeyed_tuple] at hl hm
      exact alike_compareItems (fun x hx _ _ eq ky kz => ih x hx eq ky kz) each hl hm
    | _ => rfl
  | _ =>
    -- What is no sequence is compared with texts and numbers only.
    cases looseEq_iff.1 h with
    | quantity hl hm => exact alike_compare_quantity relation hl hm _
    | _ => rfl

/-- A number sees nothing of a limit but its quantity. -/
theorem alike_compare_number {v : Value} (number : Kind.number.accepts v = true) {l m : Value}
    (h : l.looseEq m = true) (relation : Relation) :
    Alike (.lift (v.compare relation l)) (.lift (v.compare relation m)) := by
  rw [compare_number relation number, compare_number relation number, quantity_of_looseEq h]
  cases v.quantity? with
  | none => rfl
  | some q => cases m.quantity? <;> rfl

end Value

/-- Equal callees are one function, or none of them can be called. -/
theorem Callee.alike_call {f g : Callee} (h : f.equal g = true) (host : Host) (v : Value) :
    Alike (f.call host v) (g.call host v) := by
  cases f with
  | function handle =>
    cases g with
    | function handle' =>
      rw [show handle = handle' from eq_of_beq h]
      rfl
    | value => cases h
  | value =>
    cases g with
    | function => cases h
    | value => rfl

namespace Predicate

theorem alike_compareLength {l m : Value} (h : l.looseEq m = true) (relation : Relation)
    (v : Value) :
    Alike (.lift (compareLength relation v l)) (.lift (compareLength relation v m)) := by
  unfold compareLength
  cases v.length with
  | error f => rfl
  | ok k => exact Value.alike_compare_number rfl h relation

/-- Equal predicates decide alike on a value that equal limits are alike to. -/
theorem alike_of_limits {p q : Predicate} (h : p.equal q = true) (host : Host) (v : Value)
    (limits : ∀ relation l m, .bound relation l ∈ p.leaves → .bound relation m ∈ q.leaves →
      l.looseEq m = true → Alike (.lift (v.compare relation l)) (.lift (v.compare relation m))) :
    Alike (p.check host v) (q.check host v) := by
  induction p generalizing q with
  | minLength l =>
    cases q with
    | minLength m => exact alike_compareLength h _ v
    | _ => cases h
  | maxLength l =>
    cases q with
    | maxLength m => exact alike_compareLength h _ v
    | _ => cases h
  | pattern p =>
    cases q with
    | pattern q =>
      rw [Pattern.eq_of_source_eq (eq_of_beq h)]
      rfl
    | _ => cases h
  | format name f =>
    cases q with
    | format _ g =>
      obtain ⟨_, callees⟩ := Bool.and_eq_true_iff.1 h
      exact (Callee.alike_call callees host v).bind fun _ _ => rfl
    | _ => cases h
  | bound r l =>
    cases q with
    | bound s m =>
      obtain ⟨same, eq⟩ := Bool.and_eq_true_iff.1 h
      cases (beq_iff_eq.1 same : r = s)
      exact limits r l m List.mem_cons_self List.mem_cons_self eq
    | _ => cases h
  | whole =>
    cases q with
    | whole => rfl
    | _ => cases h
  | distinct =>
    cases q with
    | distinct => rfl
    | _ => cases h
  | both p p' left right =>
    cases q with
    | both q q' =>
      obtain ⟨eq, eq'⟩ := Bool.and_eq_true_iff.1 h
      apply (left eq _).andThen
      · intro _
        exact right eq' fun r l m hl hm =>
          limits r l m (List.mem_append_right _ hl) (List.mem_append_right _ hm)
      · exact fun r l m hl hm =>
          limits r l m (List.mem_append_left _ hl) (List.mem_append_left _ hm)
    | _ => cases h

/-- Bounds are only compared with numbers; any other value may be of the form of the limit. -/
theorem alike_of_equal {p q : Predicate} (h : p.equal q = true) (host : Host) (v : Value)
    (bounds : ∀ relation limit, .bound relation limit ∈ p.leaves →
      Kind.number.accepts v = true) : Alike (p.check host v) (q.check host v) :=
  alike_of_limits h host v fun r l _ hl _ eq => Value.alike_compare_number (bounds r l hl) eq r

/-- The values that it is written with have distinct keys. -/
def WellKeyed (p : Predicate) : Prop :=
  ∀ leaf ∈ p.leaves, ∀ v ∈ leaf.parameters, v.WellKeyed

theorem WellKeyed.of_bound {p : Predicate} (h : p.WellKeyed) {relation : Relation} {limit : Value}
    (mem : .bound relation limit ∈ p.leaves) : limit.WellKeyed :=
  h _ mem limit List.mem_cons_self

end Predicate

/-- Equal predicates make the same calls and give the same answer, or fault in one class, on every
value. -/
theorem decides_alike {p q : Predicate} (h : p.equal q = true) (hp : p.WellKeyed)
    (hq : q.WellKeyed) (host : Host) (v : Value) : Alike (p.check host v) (q.check host v) :=
  Predicate.alike_of_limits h host v fun relation _ _ hl hm eq =>
    Value.alike_compare eq (hp.of_bound hl) (hq.of_bound hm) relation v

/-- The first items are passed over, for all that the limits write them differently; the second ones
cannot be compared with either limit. -/
theorem decides_alike_nested :
    let code : Predicate := .format (.text "code") (.function "isCode")
    let p : Predicate := .both (.maxLength (.int 2))
      (.both code (.bound .greater (.list [.int 1, .tuple [.int 1, .int 0]])))
    let q : Predicate := .both (.maxLength (.float (.finite false 2 0)))
      (.both code (.bound .greater (.list [.bool true, .tuple [.bool true, .bool false]])))
    let v : Value := .list [.float (.finite false 1 0), .tuple [.int 1, .text "a"]]
    let host : Host := fun _ v => .ok v
    p.equal q = true ∧ p.WellKeyed ∧ q.WellKeyed ∧ Alike (p.check host v) (q.check host v) ∧
      p.check host v = ⟨[⟨"isCode", v⟩], .error (.unordered .greater .text .int)⟩ ∧
      q.check host v = ⟨[⟨"isCode", v⟩], .error (.unordered .greater .text .bool)⟩ := by
  intro code p q v host
  have eq : p.equal q = true := by decide +kernel
  have keyed : p.WellKeyed ∧ q.WellKeyed := by
    simp [Predicate.WellKeyed, Predicate.leaves, Predicate.parameters, p, q, code]
  exact ⟨eq, keyed.1, keyed.2, decides_alike eq keyed.1 keyed.2 host v, rfl, rfl⟩

end Conform
