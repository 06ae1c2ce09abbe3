import Conform.Workspace
import Conform.Proofs.Constraints
import Conform.Proofs.Correspondence
import Conform.Proofs.LooseEquality
import Conform.Proofs.Printing
import Mathlib.Data.List.Induction

namespace Conform

namespace Value

/-- A name that can be hashed holds no object, so it has no keys to repeat. -/
theorem wellKeyed_of_hashable {v : Value} (h : v.hashable = .ok ()) : v.WellKeyed := by
  induction v with
  | null => exact .null
  | bool b => exact .bool b
  | int n => exact .int n
  | float x => exact .float x
  | text s => exact .text s
  | list | object => cases h
  | tuple items ih =>
    have each := Node.hashableItems_ok.1 h
    exact .tuple fun x hx => ih x hx (each x hx)

end Value

namespace Registry

variable {r : Registry}

/-- Names can be hashed, and no two of them are equal. -/
structure WriteOnce (r : Registry) : Prop where
  hashable : ∀ f ∈ r.formats, f.1.hashable = .ok ()
  different : r.formats.Pairwise fun f g => f.1.looseEq g.1 = false

theorem writeOnce_empty : WriteOnce .empty :=
  ⟨nofun, .nil⟩

theorem find?_eq_none {name : Value} :
    r.find? name = none ↔ ∀ f ∈ r.formats, f.1.looseEq name = false := by
  simp [find?, List.find?_eq_none]

/-- A name has one equal among those held at most, so its function is the one that is found. -/
theorem WriteOnce.find? (h : r.WriteOnce) {f : Value × String} (mem : f ∈ r.formats) {name : Value}
    (hashed : name.hashable = .ok ()) (same : f.1.looseEq name = true) :
    r.find? name = some f.2 := by
  have keyed := Value.wellKeyed_of_hashable hashed
  obtain ⟨formats⟩ := r
  obtain ⟨hashable, different⟩ := h
  suffices formats.find? (fun g => g.1.looseEq name) = some f by
    simp [Registry.find?, this]
  induction formats with
  | nil => cases mem
  | cons g rest ih =>
    obtain ⟨apart, different⟩ := List.pairwise_cons.1 different
    obtain ⟨_, hashable⟩ := List.forall_mem_cons.1 hashable
    rcases List.mem_cons.1 mem with rfl | mem
    · exact List.find?_cons_of_pos same
    · have other : ¬g.1.looseEq name = true := by
        intro eq
        have back := Value.looseEq_symm (Value.wellKeyed_of_hashable (hashable f mem)) keyed same
        have joined := Value.looseEq_trans eq back
        simp [apart f mem] at joined
      simp only [List.find?_cons, other]
      exact ih mem hashable different

variable {name : Value}

theorem register_unhashable {f : Fault} (failed : name.hashable = .error f) (callee : Callee) :
    r.register name callee = (r, .error (.fault f)) := by
  simp only [register, failed]

theorem register_known {handle : String} (hashed : name.hashable = .ok ())
    (found : r.find? name = some handle) (callee : Callee) :
    r.register name callee = (r, .error (.raised (.duplicateFormat name))) := by
  simp only [register, hashed, found]

theorem register_uncallable (hashed : name.hashable = .ok ()) (fresh : r.find? name = none)
    (v : Value) : r.register name (.value v) = (r, .error (.raised (.uncallableFormat name))) := by
  simp only [register, hashed, fresh]

/-- A new name is held from now on, whether or not this can be reported. -/
theorem register_fresh (hashed : name.hashable = .ok ()) (fresh : r.find? name = none)
    (handle : String) :
    (r.register name (.function handle)).1 = ⟨r.formats ++ [(name, handle)]⟩ ∧
      (name.Writable → (r.register name (.function handle)).2 = .ok ()) ∧
      (¬name.Writable →
        (r.register name (.function handle)).2 = .error (.fault .numberTooLong)) := by
  have told : Spells name.Writable (Report.registered name).text := name.spells_plain.map _
  simp only [register, hashed, fresh]
  refine ⟨trivial, fun writable => ?_, fun overlong => ?_⟩
  · obtain ⟨s, text⟩ := told.ok_iff.2 writable
    rw [text]
    rfl
  · rw [told.error_iff.2 ⟨overlong, rfl⟩]
    rfl

theorem WriteOnce.add (h : r.WriteOnce) (hashed : name.hashable = .ok ())
    (fresh : r.find? name = none) (handle : String) :
    WriteOnce ⟨r.formats ++ [(name, handle)]⟩ := by
  have apart := find?_eq_none.1 fresh
  constructor
  · simp [or_imp, forall_and, hashed]
    simpa using h.hashable
  · rw [List.pairwise_append]
    refine ⟨h.different, List.pairwise_singleton _ _, fun f hf g hg => ?_⟩
    rw [List.mem_singleton.1 hg]
    exact apart f hf

end Registry

/-- An operation with the response to it. -/
abbrev Event := Operation × Response

namespace Event

/-- The registry is empty afterwards, as it has just been opened or reset. -/
def clears (i : Nat) (e : Event) : Bool :=
  match e.1, e.2.outcome with
  | .openRegistry, .ok (.opened j) => j == i
  | .reset j, _ => j == i
  | _, _ => false

/-- The name and the function that a registration adds to those held. One that succeeds adds them.
So does one whose report cannot be written, where the name is not held yet. -/
def added? (i : Nat) (held : List (Value × String)) (e : Event) : Option (Value × String) :=
  match e.1, e.2.outcome with
  | .register j name (.function handle), .ok _ => if j = i then some (name, handle) else none
  | .register j name (.function handle), .error (.fault .numberTooLong) =>
    if j = i ∧ ∀ f ∈ held, f.1.looseEq name = false then some (name, handle) else none
  | _, _ => none

theorem added?_other {i j : Nat} (other : j ≠ i) (held : List (Value × String)) (name : Value)
    (callee : Callee) (response : Response) :
    added? i held (.register j name callee, response) = none := by
  unfold added?
  split <;> simp_all

end Event

/-- What has been added since the registry was last empty, oldest first. -/
def taken (i : Nat) (events : List Event) : List (Value × String) :=
  events.foldl (fun held e =>
    if Event.clears i e then [] else held ++ (Event.added? i held e).toList) []

theorem taken_concat (i : Nat) (events : List Event) (e : Event) :
    taken i (events ++ [e]) =
      if Event.clears i e then []
      else taken i events ++ (Event.added? i (taken i events) e).toList := by
  simp only [taken, List.foldl_append, List.foldl_cons, List.foldl_nil]

namespace Workspace

variable {w : Workspace}

/-- The operations of a run with the responses to them. -/
def events (w : Workspace) (operations : List Operation) : List Event :=
  operations.zip (w.run operations).2

theorem run_append (w : Workspace) (before after : List Operation) :
    w.run (before ++ after) = (((w.run before).1.run after).1,
      (w.run before).2 ++ ((w.run before).1.run after).2) := by
  induction before generalizing w with
  | nil => rfl
  | cons operation before ih => simp [run, ih]

theorem length_responses (w : Workspace) (operations : List Operation) :
    (w.run operations).2.length = operations.length := by
  induction operations generalizing w with
  | nil => rfl
  | cons operation operations ih => simp [run, ih]

theorem run_concat (w : Workspace) (operations : List Operation) (operation : Operation) :
    (w.run (operations ++ [operation])).1 = ((w.run operations).1.step operation).1 := by
  rw [run_append]
  rfl

theorem events_concat (w : Workspace) (operations : List Operation) (operation : Operation) :
    w.events (operations ++ [operation]) =
      w.events operations ++ [(operation, ((w.run operations).1.step operation).2)] := by
  unfold events
  rw [run_append, List.zip_append (length_responses w operations).symm]
  rfl

/-- An operation of a run is responded to as what came before it has left the workspace. -/
theorem response_eq (w : Workspace) (before : List Operation) (operation : Operation)
    (after : List Operation) :
    (w.run (before ++ operation :: after)).2[before.length]? =
      some ((w.run before).1.step operation).2 := by
  have same := length_responses w before
  rw [run_append, List.getElem?_append_right (by omega)]
  simp [same, run]

theorem registry_of_le {i : Nat} (h : w.registries.length ≤ i) : w.registry i = .empty := by
  simp [registry, List.getElem?_eq_none h]

theorem registry_set (w : Workspace) {i : Nat} (opened : i < w.registries.length) (j : Nat)
    (r : Registry) : registry { w with registries := w.registries.set j r } i =
      if j = i then r else w.registry i := by
  unfold registry
  rw [List.getElem?_set]
  by_cases same : j = i
  · subst same
    simp [opened]
  · simp [same]

theorem register_outcome (w : Workspace) (i : Nat) (name : Value) (callee : Callee) :
    (w.step (.register i name callee)).2.outcome =
      ((w.registry i).register name callee).2.map fun _ => .done := by
  simp only [step]
  cases ((w.registry i).register name callee).2 <;> rfl

/-- What a step can do to a registry, and what the event says of it. -/
inductive Turn (w : Workspace) (i : Nat) (e : Event) : Registry → Prop where
  | kept (uncleared : Event.clears i e = false)
      (none : Event.added? i (w.registry i).formats e = none) : Turn w i e (w.registry i)
  | opened (clears : Event.clears i e = true) (new : w.registries.length = i) : Turn w i e .empty
  | reset (clears : Event.clears i e = true) (asked : e.1 = .reset i) : Turn w i e .empty
  | added {name : Value} {handle : String} (uncleared : Event.clears i e = false)
      (some : Event.added? i (w.registry i).formats e = some (name, handle))
      (hashed : name.hashable = .ok ()) (fresh : (w.registry i).find? name = none) :
      Turn w i e ⟨(w.registry i).formats ++ [(name, handle)]⟩

/-- A registration is the one step that can fail and still change a registry. -/
theorem turn_register (w : Workspace) (i : Nat) (name : Value) (callee : Callee) :
    Turn w i (.register i name callee, (w.step (.register i name callee)).2)
      ((w.registry i).register name callee).1 := by
  have outcome := register_outcome w i name callee
  generalize (w.step (.register i name callee)).2 = response at outcome ⊢
  cases hashed : name.hashable with
  | error f =>
    have type := Value.classOf_of_hashable hashed
    rw [Registry.register_unhashable hashed] at outcome ⊢
    refine .kept rfl ?_
    cases f <;> cases type <;> cases callee <;> simp [Event.added?, outcome, Except.map]
  | ok _ =>
    cases found : (w.registry i).find? name with
    | some handle =>
      rw [Registry.register_known hashed found] at outcome ⊢
      have held : ¬∀ f ∈ (w.registry i).formats, f.1.looseEq name = false := by
        rw [← Registry.find?_eq_none, found]
        nofun
      refine .kept rfl ?_
      unfold Event.added?
      split
      · rename_i done
        simp [outcome, Except.map] at done
      · rename_i asked _
        cases asked
        exact if_neg fun both => held both.2
      · rfl
    | none =>
      cases callee with
      | value v =>
        rw [Registry.register_uncallable hashed found]
        exact .kept rfl rfl
      | function handle =>
        have fresh := Registry.find?_eq_none.1 found
        obtain ⟨added, done, told⟩ := Registry.register_fresh hashed found handle
        rw [added]
        refine .added rfl ?_ hashed found
        by_cases writable : name.Writable
        · rw [done writable] at outcome
          simp [Event.added?, outcome, Except.map]
        · rw [told writable] at outcome
          simp only [Event.added?, outcome, Except.map]
          exact if_pos ⟨trivial, fresh⟩

theorem turn (w : Workspace) (operation : Operation) {i : Nat}
    (opened : i < (w.step operation).1.registries.length) :
    Turn w i (operation, (w.step operation).2) ((w.step operation).1.registry i) := by
  cases operation with
  | openRegistry =>
    by_cases new : w.registries.length = i
    · have empty : (w.step .openRegistry).1.registry i = .empty := by
        simp [step, registry, ← new]
      rw [empty]
      exact .opened (by simp [step, Event.clears, new]) new
    · have old : i < w.registries.length := by
        simp only [step, List.length_append, List.length_singleton] at opened
        omega
      have same : (w.step .openRegistry).1.registry i = w.registry i := by
        simp [step, registry, List.getElem?_append_left old]
      rw [same]
      exact .kept (by simp [step, Event.clears, new]) rfl
  | register j name callee =>
    have old : i < w.registries.length := by simpa [step] using opened
    have eq : (w.step (.register j name callee)).1.registry i =
        if j = i then ((w.registry j).register name callee).1 else w.registry i :=
      registry_set w old j _
    rw [eq]
    by_cases same : j = i
    · subst same
      rw [if_pos rfl]
      exact turn_register w j name callee
    · rw [if_neg same]
      exact .kept rfl (Event.added?_other same _ _ _ _)
  | reset j =>
    simp only [step, List.length_set] at opened ⊢
    rw [registry_set w opened]
    by_cases same : j = i
    · subst same
      rw [if_pos rfl]
      exact .reset (by simp [Event.clears]) rfl
    · rw [if_neg same]
      exact .kept (by simp [Event.clears, same]) rfl
  | openTransformer | get | names | contains | transform => exact .kept rfl rfl

theorem length_le_step (w : Workspace) (operation : Operation) :
    w.registries.length ≤ (w.step operation).1.registries.length := by
  cases operation with
  | _ => simp [step]

/-- A registry changes only where it is reset or something is added to it. -/
theorem registry_step {operation : Operation} {i : Nat} (opened : i < w.registries.length)
    (unreset : operation ≠ .reset i)
    (unadded : Event.added? i (w.registry i).formats (operation, (w.step operation).2) = none) :
    (w.step operation).1.registry i = w.registry i := by
  have still := Nat.lt_of_lt_of_le opened (length_le_step w operation)
  have change := turn w operation still
  generalize (w.step operation).1.registry i = r at change ⊢
  cases change with
  | kept => rfl
  | opened _ new => omega
  | reset _ asked => exact absurd asked unreset
  | added _ some => simp [unadded] at some

theorem formats_step {operation : Operation} {i : Nat}
    (opened : i < (w.step operation).1.registries.length) :
    ((w.step operation).1.registry i).formats =
      if Event.clears i (operation, (w.step operation).2) then []
      else (w.registry i).formats ++
        (Event.added? i (w.registry i).formats (operation, (w.step operation).2)).toList := by
  have change := turn w operation opened
  generalize (w.step operation).1.registry i = r at change ⊢
  cases change with
  | kept uncleared none => simp [uncleared, none]
  | opened clears => simp [clears, Registry.empty]
  | reset clears => simp [clears, Registry.empty]
  | added uncleared some => simp [uncleared, some]

/-- A registry that was not there before has just been opened. -/
theorem opened_of_uncleared {operation : Operation} {i : Nat}
    (opened : i < (w.step operation).1.registries.length)
    (uncleared : Event.clears i (operation, (w.step operation).2) = false) :
    i < w.registries.length := by
  cases operation with
  | openRegistry =>
    have other : w.registries.length ≠ i := by simpa [step, Event.clears] using uncleared
    simp only [step, List.length_append, List.length_singleton] at opened
    omega
  | register | reset => simpa [step] using opened
  | openTransformer | get | names | contains | transform => exact opened

/-- What a registry holds is what it has taken. -/
theorem formats_run {operations : List Operation} {i : Nat}
    (opened : i < (initial.run operations).1.registries.length) :
    ((initial.run operations).1.registry i).formats = taken i (initial.events operations) := by
  induction operations using List.reverseRecOn with
  | nil =>
    have first : i = 0 := by simpa [run, initial] using opened
    subst first
    rfl
  | append_singleton before operation ih =>
    rw [run_concat] at opened ⊢
    rw [formats_step opened, events_concat, taken_concat]
    by_cases clears : Event.clears i (operation, ((initial.run before).1.step operation).2) = true
    · rw [if_pos clears, if_pos clears]
    · have uncleared := Bool.eq_false_iff.2 clears
      rw [if_neg clears, if_neg clears, ih (opened_of_uncleared opened uncleared)]

theorem writeOnce_step (h : ∀ i, (w.registry i).WriteOnce) (operation : Operation) (i : Nat) :
    ((w.step operation).1.registry i).WriteOnce := by
  by_cases opened : i < (w.step operation).1.registries.length
  · have change := turn w operation opened
    generalize (w.step operation).1.registry i = r at change ⊢
    cases change with
    | kept => exact h i
    | opened | reset => exact Registry.writeOnce_empty
    | added _ _ hashed fresh => exact (h i).add hashed fresh _
  · rw [registry_of_le (Nat.le_of_not_lt opened)]
    exact Registry.writeOnce_empty

theorem writeOnce_run (operations : List Operation) (i : Nat) :
    ((initial.run operations).1.registry i).WriteOnce := by
  induction operations using List.reverseRecOn generalizing i with
  | nil =>
    have empty : initial.registry i = .empty := by cases i <;> rfl
    show (initial.registry i).WriteOnce
    rw [empty]
    exact Registry.writeOnce_empty
  | append_singleton before operation ih =>
    rw [run_concat]
    exact writeOnce_step ih operation i

/-- What is said about a name. If the name is too long to be written, this fault comes instead. -/
def Tells (name : Value) (told outcome : Except Error Answer) : Prop :=
  (name.Writable → outcome = told) ∧ (¬name.Writable → outcome = .error (.fault .numberTooLong))

theorem tells_raised {e : Error} {name : Value} (told : e.name? = some name) :
    Tells name (.error e) (.error (.raised e)) := by
  obtain ⟨writable, overlong⟩ := Error.raised_of_name told
  exact ⟨fun h => congrArg _ (writable h), fun h => congrArg _ (overlong h)⟩

/-- How a registry responds that holds these names with their functions, oldest first. -/
structure ActsAs (w : Workspace) (i : Nat) (held : List (Value × String)) : Prop where
  names : (w.step (.names i)).2.outcome = .ok (.names (held.map Prod.fst))
  different : held.Pairwise fun f g => f.1.looseEq g.1 = false
  known : ∀ f ∈ held, ∀ name : Value, name.hashable = .ok () → f.1.looseEq name = true →
    (w.step (.get i name)).2.outcome = .ok (.function f.2) ∧
    (w.step (.contains i name)).2.outcome = .ok (.holds true) ∧
    ∀ callee, Tells name (.error (.duplicateFormat name))
      (w.step (.register i name callee)).2.outcome
  unknown : ∀ name : Value, name.hashable = .ok () → (∀ f ∈ held, f.1.looseEq name = false) →
    Tells name (.error (.unknownFormat name)) (w.step (.get i name)).2.outcome ∧
    (w.step (.contains i name)).2.outcome = .ok (.holds false) ∧
    (∀ v, Tells name (.error (.uncallableFormat name))
      (w.step (.register i name (.value v))).2.outcome) ∧
    ∀ handle, Tells name (.ok .done) (w.step (.register i name (.function handle))).2.outcome
  unhashable : ∀ (name : Value) (f : Fault), name.hashable = .error f → f.classOf = .type ∧
    (w.step (.get i name)).2.outcome = .error (.fault f) ∧
    (w.step (.contains i name)).2.outcome = .error (.fault f) ∧
    ∀ callee, (w.step (.register i name callee)).2.outcome = .error (.fault f)
  kept : ∀ operation, operation ≠ .reset i →
    Event.added? i held (operation, (w.step operation).2) = none →
    (w.step operation).1.registry i = w.registry i

theorem actsAs_of_writeOnce {i : Nat} (opened : i < w.registries.length)
    (once : (w.registry i).WriteOnce) : ActsAs w i (w.registry i).formats where
  names := rfl
  different := once.different
  known := by
    intro f mem name hashed same
    have found := once.find? mem hashed same
    refine ⟨?_, ?_, fun callee => ?_⟩
    · simp only [step, Registry.get, hashed, found]
      rfl
    · simp only [step, Registry.contains, hashed, found]
      rfl
    · rw [register_outcome, Registry.register_known hashed found]
      exact tells_raised rfl
  unknown := by
    intro name hashed other
    have none := Registry.find?_eq_none.2 other
    refine ⟨?_, ?_, fun v => ?_, fun handle => ?_⟩
    · simp only [step, Registry.get, hashed, none]
      exact tells_raised rfl
    · simp only [step, Registry.contains, hashed, none]
      rfl
    · rw [register_outcome, Registry.register_uncallable hashed none]
      exact tells_raised rfl
    · obtain ⟨_, done, told⟩ := Registry.register_fresh hashed none handle
      rw [register_outcome]
      exact ⟨fun writable => by rw [done writable]; rfl, fun overlong => by rw [told overlong]; rfl⟩
  unhashable := by
    intro name f failed
    refine ⟨Value.classOf_of_hashable failed, ?_, ?_, fun callee => ?_⟩
    · simp only [step, Registry.get, failed]
      rfl
    · simp only [step, Registry.contains, failed]
      rfl
    · rw [register_outcome, Registry.register_unhashable failed]
      rfl
  kept := fun _ unreset unadded => registry_step opened unreset unadded

end Workspace

/-- After any run a registry responds by what has been added to it since it was last empty, as told
by the responses so far; so it does all through a longer run. -/
theorem responds_by_taken (operations : List Operation) {i : Nat}
    (opened : i < (Workspace.initial.run operations).1.registries.length) :
    Workspace.ActsAs (Workspace.initial.run operations).1 i
        (taken i (Workspace.initial.events operations)) ∧
      ∀ next later, (Workspace.initial.run (operations ++ next :: later)).2[operations.length]? =
        some ((Workspace.initial.run operations).1.step next).2 := by
  constructor
  · rw [← Workspace.formats_run opened]
    exact Workspace.actsAs_of_writeOnce opened (Workspace.writeOnce_run operations i)
  · exact Workspace.response_eq _ operations

/-- One and `true` are the same name, which keeps its first spelling and its first function. -/
theorem responds_by_taken_spelling :
    let operations : List Operation := [.openRegistry, .register 1 (.int 1) (.function "f"),
      .register 1 (.bool true) (.function "g"), .register 0 (.bool true) (.function "g"), .reset 0,
      .register 1 (.text "a") (.value .null)]
    let w := (Workspace.initial.run operations).1
    let held : List (Value × String) := [(.int 1, "f")]
    1 < w.registries.length ∧ taken 1 (Workspace.initial.events operations) = held ∧
      w.ActsAs 1 held ∧ (w.step (.get 1 (.bool true))).2.outcome = .ok (.function "f") ∧
      (w.step (.names 1)).2.outcome = .ok (.names [.int 1]) := by
  intro operations w held
  have opened : 1 < w.registries.length := by decide
  have remembered : taken 1 (Workspace.initial.events operations) = held :=
    (Workspace.formats_run opened).symm
  obtain ⟨acts, _⟩ := responds_by_taken operations opened
  rw [remembered] at acts
  have same : (Value.int 1).looseEq (.bool true) = true := rfl
  obtain ⟨found, _, _⟩ := acts.known (.int 1, "f") List.mem_cons_self (.bool true) rfl same
  exact ⟨opened, remembered, acts, found, acts.names⟩

/-- A registration that fails as its report cannot be written is in force all the same. -/
theorem registered_unreported :
    let operation : Operation := .register 0 .tooLong (.function "f")
    let w := (Workspace.initial.step operation).1
    (Workspace.initial.step operation).2.outcome = .error (.fault .numberTooLong) ∧
      (w.step (.names 0)).2.outcome = .ok (.names [.tooLong]) ∧
      (w.step (.get 0 .tooLong)).2.outcome = .ok (.function "f") := by
  intro operation w
  have fresh : Registry.empty.find? .tooLong = none := rfl
  obtain ⟨_, _, told⟩ := Registry.register_fresh rfl fresh "f"
  have failed : (Workspace.initial.step operation).2.outcome = .error (.fault .numberTooLong) := by
    rw [Workspace.register_outcome]
    exact congrArg _ (told Value.not_writable_tooLong)
  have once : (w.registry 0).WriteOnce := Registry.writeOnce_empty.add rfl fresh "f"
  have acts := Workspace.actsAs_of_writeOnce (w := w) Nat.zero_lt_one once
  have same : Value.tooLong.looseEq .tooLong = true := Value.looseEq_refl (.int _) (.int _)
  obtain ⟨found, _, _⟩ := acts.known (.tooLong, "f") List.mem_cons_self .tooLong rfl same
  exact ⟨failed, acts.names, found⟩

end Conform
