import Conform.Proofs.Constraints

namespace Conform

namespace Traced

variable {ω ε α : Type}

/-- What a row of tests comes to. If all of them pass, each has left its trace; otherwise the first
that does not pass gives the outcome, and what stands after it leaves no trace. -/
inductive InTurn (test : α → Traced ω ε Bool) (xs : List α) : Traced ω ε Bool → Prop where
  | passed (each : ∀ x ∈ xs, (test x).outcome = .ok true) :
      InTurn test xs ⟨xs.flatMap fun x => (test x).trace, .ok true⟩
  | stopped {before after : List α} {x : α} (row : xs = before ++ x :: after)
      (earlier : ∀ y ∈ before, (test y).outcome = .ok true)
      (failed : (test x).outcome ≠ .ok true) :
      InTurn test xs
        ⟨(before.flatMap fun y => (test y).trace) ++ (test x).trace, (test x).outcome⟩

/-- A test that does not pass ends the row. -/
theorem andThen_of_failed {x : Traced ω ε Bool} (failed : x.outcome ≠ .ok true)
    (y : Traced ω ε Bool) : x.andThen y = x := by
  obtain ⟨trace, outcome⟩ := x
  cases outcome with
  | error e => exact bind_of_error rfl _
  | ok passed =>
    cases passed with
    | true => exact absurd rfl failed
    | false =>
      rw [andThen, bind_of_ok rfl]
      exact congrArg (Traced.mk · (.ok false)) (List.append_nil trace)

theorem inTurn_all (test : α → Traced ω ε Bool) (xs : List α) : InTurn test xs (all test xs) := by
  induction xs with
  | nil => exact .passed nofun
  | cons x xs ih =>
    rw [all_cons]
    by_cases passed : (test x).outcome = .ok true
    · rw [andThen, bind_of_ok passed]
      -- The first test passes, so the row goes on as the rest of it does.
      generalize all test xs = rest at ih
      cases ih with
      | passed each => exact .passed (List.forall_mem_cons.2 ⟨passed, each⟩)
      | @stopped before after y row earlier failed =>
        have row' : x :: xs = (x :: before) ++ y :: after := by rw [row, List.cons_append]
        have stop := InTurn.stopped row' (List.forall_mem_cons.2 ⟨passed, earlier⟩) failed
        rwa [List.flatMap_cons, List.append_assoc] at stop
    · rw [andThen_of_failed passed]
      have row : x :: xs = [] ++ x :: xs := rfl
      exact .stopped row nofun passed

end Traced

namespace Predicate

theorem leaves_ne_nil (p : Predicate) : p.leaves ≠ [] := by
  induction p with
  | both left right ihl =>
    intro none
    exact ihl (List.append_eq_nil_iff.1 none).1
  | _ => exact List.cons_ne_nil _ _

/-- A constraint that stands in a conjunction is a single one. -/
theorem leaves_of_leaf {p leaf : Predicate} (mem : leaf ∈ p.leaves) : leaf.leaves = [leaf] := by
  induction p with
  | both left right ihl ihr =>
    rcases List.mem_append.1 mem with mem | mem
    · exact ihl mem
    · exact ihr mem
  | _ =>
    rw [List.mem_singleton.1 mem]
    rfl

theorem check_eq_all_leaves (host : Host) (p : Predicate) (v : Value) :
    p.check host v = Traced.all (fun leaf => leaf.check host v) p.leaves := by
  induction p with
  | both left right ihl ihr =>
    rw [leaves, Traced.all_append, ← ihl, ← ihr]
    rfl
  | _ => exact (Traced.andThen_true _).symm

theorem text_eq_leaves (p : Predicate) :
    p.text = (p.leaves.mapM text).map (" & ".intercalate ·) := by
  have some : ∀ {q : Predicate} {parts : List String},
      q.leaves.mapM text = .ok parts → parts ≠ [] := by
    intro q parts written none
    rcases except_mapM_cases text q.leaves with ⟨_, same, each⟩ | ⟨_, _, _, _, failed⟩
    · cases written.symm.trans same
      subst none
      exact q.leaves_ne_nil (List.forall₂_nil_right_iff.1 each)
    · cases written.symm.trans failed
  induction p with
  | both left right ihl ihr =>
    rw [text, ihl, ihr, leaves, List.mapM_append]
    cases first : left.leaves.mapM text with
    | error => rfl
    | ok parts =>
      cases rest : right.leaves.mapM text with
      | error => rfl
      | ok others =>
        exact congrArg Except.ok (String.intercalate_append_of_ne_nil (some first) (some rest)).symm
  | _ =>
    simp only [leaves, List.mapM_cons, List.mapM_nil]
    cases text _ <;> rfl

theorem leaves_conjoin (gathered : Option Predicate) (p : Predicate) :
    (conjoin gathered p).leaves = gathered.elim [] leaves ++ p.leaves := by
  cases gathered with
  | none => rfl
  | some q => rfl

/-- Gathering keeps the order, whatever is gathered. -/
theorem leaves_of_gather {gathered : Option Predicate} {ps : List Predicate} {p : Predicate}
    (h : gather gathered ps = some p) :
    p.leaves = gathered.elim [] leaves ++ ps.flatMap leaves := by
  induction ps generalizing gathered with
  | nil =>
    cases h
    exact (List.append_nil _).symm
  | cons q ps ih =>
    rw [@ih (some (conjoin gathered q)) h, Option.elim_some, leaves_conjoin,
      List.flatMap_cons, List.append_assoc]

theorem gather_eq_none {gathered : Option Predicate} {ps : List Predicate} :
    gather gathered ps = none ↔ gathered = none ∧ ps = [] := by
  induction ps generalizing gathered with
  | nil => simp [gather]
  | cons p ps ih =>
    have later := @ih (some (conjoin gathered p))
    simpa [gather] using later

end Predicate

open Predicate in
/-- A conjunction tests its single constraints in turn; conjunctions of the same ones agree in
answers, calls and texts; and constraints that are gathered stand in the order in which they were.
-/
theorem conjunction_by_leaves (host : Host) :
    (∀ (p : Predicate) (v : Value), (∀ leaf ∈ p.leaves, leaf.leaves = [leaf]) ∧
      Traced.InTurn (fun leaf => leaf.check host v) p.leaves (p.check host v)) ∧
    (∀ p q : Predicate, p.leaves = q.leaves →
      (∀ v, p.check host v = q.check host v) ∧ p.text = q.text) ∧
    ∀ ps : List Predicate, (gather none ps = none ↔ ps = []) ∧
      ∀ p, gather none ps = some p → p.leaves = ps.flatMap leaves := by
  refine ⟨fun p v => ⟨fun leaf => leaves_of_leaf, ?_⟩, fun p q same => ⟨fun v => ?_, ?_⟩,
    fun ps => ⟨?_, fun p gathered => ?_⟩⟩
  · rw [check_eq_all_leaves]
    exact Traced.inTurn_all _ _
  · rw [check_eq_all_leaves, same, ← check_eq_all_leaves]
  · rw [text_eq_leaves, same, ← text_eq_leaves]
  · rw [gather_eq_none, eq_self_iff_true, true_and]
  · rw [leaves_of_gather gathered, Option.elim_none, List.nil_append]

/-- The first format function gives up, so the second is not called, whichever brackets it is in. -/
theorem conjunction_by_leaves_rebracketed :
    let least : Predicate := .minLength (.int 1)
    let code : Predicate := .format (.text "code") (.function "isCode")
    let mail : Predicate := .format (.text "mail") (.function "isMail")
    let p : Predicate := .both (.both least code) mail
    let q : Predicate := .both least (.both code mail)
    let host : Host := fun _ _ => .error (.raised "no answer")
    p.leaves = q.leaves ∧ p.check host (.text "ab") = q.check host (.text "ab") ∧
      p.text = q.text ∧
      p.check host (.text "ab") = ⟨[⟨"isCode", .text "ab"⟩], .error (.raised "no answer")⟩ ∧
      Predicate.gather none [least, .both code mail] = some q ∧
      q.leaves = [least, .both code mail].flatMap Predicate.leaves := by
  intro least code mail p q host
  obtain ⟨_, alike, gathers⟩ := conjunction_by_leaves host
  have same : p.leaves = q.leaves := rfl
  have gathered : Predicate.gather none [least, .both code mail] = some q := rfl
  obtain ⟨check, text⟩ := alike p q same
  exact ⟨same, check (.text "ab"), text, rfl, gathered, (gathers _).2 q gathered⟩

end Conform
