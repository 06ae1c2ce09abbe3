import Conform.Proofs.Walks
import Conform.Workspace

namespace Conform

namespace Traced

variable {ω ε α β : Type}

/-- What is done to the items in turn leaves the traces of those that are gone through. -/
theorem mapM_trace (f : α → Traced ω ε β) (xs : List α) : (xs.mapM f).trace =
    (through (fun x => (f x).outcome.isOk) xs).flatMap fun x => (f x).trace := by
  induction xs with
  | nil => rfl
  | cons x xs ih =>
    rw [List.mapM_cons, through, List.flatMap_cons]
    cases first : (f x).outcome with
    | error e =>
      rw [bind_of_error first]
      exact (List.append_nil _).symm
    | ok y =>
      rw [bind_of_ok first, ← map_eq_pure_bind, map_trace, ih]
      rfl

end Traced

/-- What a node reports of itself: its kind, or the list of its kinds. -/
def Node.announced? (entries : List (String × Value)) : Option Report :=
  match entries.lookup "type" with
  | some (.list names) => (kinds? names).map fun _ => .enteringUnion names
  | some name => (Kind.named? name).map .entering
  | none => none

/-- Schemas that are no nodes report nothing. -/
def announced? : Value → Option Report
  | .object entries => Node.announced? entries
  | _ => none

section

variable {r : Registry} {entries : List (String × Value)}

theorem Node.compileAll_trace (r : Registry) (items : List Value) : (compileAll r items).trace =
    (through (fun s => (Conform.compile r s).outcome.isOk) items).flatMap
      fun s => (Conform.compile r s).trace := by
  rw [compileAll_eq_mapM, Traced.mapM_trace]

theorem Node.compileFields_trace (r : Registry) (properties : List (String × Value)) :
    (compileFields r properties).trace = (compileAll r (properties.map Prod.snd)).trace := by
  have passed : ∀ p : String × Value, ((p.1, ·) <$> Conform.compile r p.2).outcome.isOk =
      (Conform.compile r p.2).outcome.isOk := by
    intro p
    rw [Traced.map_outcome]
    cases (Conform.compile r p.2).outcome <;> rfl
  rw [compileAll_trace, through_map, compileFields_eq_mapM, Traced.mapM_trace, List.flatMap_map]
  simp only [passed, Traced.map_trace]

theorem Node.object_trace : (ofEntries r entries).object.trace =
    (opened r entries .object).flatMap fun s => (Conform.compile r s).trace := by
  unfold object opened partsAs
  rw [ofEntries_get?]
  cases given : entries.lookup "properties" with
  | none => simp [through]
  | some v =>
    cases v with
    | object properties =>
      simp only
      split
      · rename_i empty
        rw [List.isEmpty_iff.1 empty]
        simp [through]
      · rw [Traced.lift_bind_trace]
        cases needed : (ofEntries r entries).required with
        | error e => simp [Except.isOk, Except.toBool]
        | ok names =>
          rw [if_neg (by simp [Except.isOk, Except.toBool]), ← compileAll_trace, ← compileFields_trace]
          dsimp only
          rw [← map_eq_pure_bind, Traced.map_trace, ofEntries_properties, given]
    | _ =>
      simp only [through]
      split <;> simp

theorem Node.array_trace : (ofEntries r entries).array.trace =
    (opened r entries .array).flatMap fun s => (Conform.compile r s).trace := by
  rw [array_eq, Traced.map_trace, itemsType, ofEntries_items, ofEntries_get?, opened,
    if_neg (by simp), partsAs]
  cases given : entries.lookup "items" with
  | none => rfl
  | some v =>
    cases v with
    | object item =>
      refine (Traced.map_trace _ _).trans ?_
      simp [through]
    | list items => exact (Traced.map_trace _ _).trans (compileAll_trace r items)
    | _ => rfl

theorem Node.asKind_trace (kind : Kind) : ((ofEntries r entries).asKind r kind).trace =
    (opened r entries kind).flatMap fun s => (Conform.compile r s).trace := by
  cases kind with
  | object => exact object_trace
  | array => exact array_trace
  | _ => simp [asKind, opened, partsAs, through]

/-- A node reports itself first, and then come its kinds. -/
theorem Node.compile_trace : (Conform.compile r (.object entries)).trace =
    (announced? entries).toList ++
      ((enteredRoute r).into entries).flatMap fun s => (Conform.compile r s).trace := by
  have kinds : ((enteredRoute r).into entries).flatMap (fun s => (Conform.compile r s).trace) =
      (through (fun kind => ((ofEntries r entries).asKind r kind).outcome.isOk)
        (compiledAs entries)).flatMap fun kind => ((ofEntries r entries).asKind r kind).trace := by
    rw [enteredRoute, List.flatMap_assoc]
    simp only [asKind_trace]
  rw [kinds, Conform.compile]
  show (Node.compile r (ofEntries r entries)).trace = _
  unfold Node.compile announced? compiledAs
  rw [ofEntries_get?]
  cases given : entries.lookup "type" with
  | none => rfl
  | some type =>
    cases type with
    | text s =>
      cases named : Kind.named? (.text s) with
      | none => simp [named, through, Traced.fail]
      | some kind => simp [named, through, Traced.emit_bind_trace]
    | list names =>
      cases listed : kinds? names with
      | none => simp [Kind.named?, listed, through]
      | some kinds =>
        simp only [Kind.named?, listed, Traced.emit_bind_trace, ← map_eq_pure_bind, Traced.map_trace,
          Traced.mapM_trace]
        rfl
    | _ => rfl

/-- The reports of a compilation are those of the schemas that it enters. -/
theorem trace_compile (r : Registry) (s : Value) :
    (compile r s).trace = (entered r s).filterMap announced? := by
  induction s using schema_induct with
  | other v none =>
    rw [entered, Route.walk_other _ none]
    cases v with
    | object entries => exact absurd rfl (none entries)
    | _ => simp [compile, Traced.fail, announced?]
  | node entries ih =>
    have below : ((enteredRoute r).into entries).flatMap (fun s => (compile r s).trace) =
        (((enteredRoute r).into entries).flatMap (enteredRoute r).walk).filterMap announced? := by
      rw [List.filterMap_flatMap]
      exact List.flatMap_congr fun s hs => ih s ((enteredRoute r).part entries s hs)
    rw [Node.compile_trace, below, entered, Route.walk_object, List.filterMap_cons]
    cases announced : Node.announced? entries <;> simp [announced?, announced]

/-- Kinds have short names, so what a compilation reports can always be written. -/
theorem text_of_announced {s : Value} {report : Report} (h : announced? s = some report) :
    ∃ text, report.text = .ok text := by
  cases s with
  | object entries =>
    rw [announced?, Node.announced?] at h
    split at h
    · rename_i names given
      obtain ⟨kinds, listed, rfl⟩ := Option.map_eq_some_iff.1 h
      obtain ⟨_, rfl⟩ := Node.kinds?_eq_some.1 listed
      exact ((Value.spells_written _).map _).ok_iff.2 (by simp)
    · obtain ⟨kind, _, rfl⟩ := Option.map_eq_some_iff.1 h
      exact ⟨_, rfl⟩
    · cases h
  | _ => cases h

theorem text_of_mem_trace {s : Value} {report : Report} (h : report ∈ (compile r s).trace) :
    ∃ text, report.text = .ok text := by
  rw [trace_compile] at h
  obtain ⟨n, _, announced⟩ := List.mem_filterMap.1 h
  exact text_of_announced announced

end

namespace Workspace

/-- Only a verbose transformer changes what is shown, and there is no way back. -/
theorem verbose_step (w : Workspace) (operation : Operation) :
    (w.step operation).1.verbose = true ↔
      w.verbose = true ∨ operation = .openTransformer true := by
  cases operation with
  | openTransformer verbose => cases verbose <;> simp [step]
  | _ => simp [step]

theorem verbose_run (w : Workspace) (operations : List Operation) :
    (w.run operations).1.verbose = true ↔
      w.verbose = true ∨ .openTransformer true ∈ operations := by
  induction operations generalizing w with
  | nil => simp [run]
  | cons operation rest ih =>
    rw [List.mem_cons, @eq_comm _ _ operation, ← or_assoc, ← verbose_step]
    exact ih _

theorem shown_quiet {w : Workspace} (quiet : w.verbose = false) (reports : List Report) :
    w.shown reports = [] := by
  rw [shown, quiet, if_neg (by simp)]

theorem reports_quiet {w : Workspace} (quiet : w.verbose = false) (operation : Operation) :
    (w.step operation).2.reports = [] := by
  cases operation with
  | register i name callee =>
    simp only [step]
    split
    · exact shown_quiet quiet _
    · rfl
  | reset | transform => exact shown_quiet quiet _
  | _ => rfl

end Workspace

/-- A transformation shows the reports of the schemas that it enters, if anything is shown at all:
they are those of the walk through the schema, up to the error if there is one. What is shown hangs
on whether some transformer has been verbose, and on nothing else. -/
theorem reports_of_entered (w : Workspace) (i : Nat) (s : Value) :
    (w.step (.transform i s)).2.reports =
        (if w.verbose then (entered (w.registry i) s).filterMap announced? else []) ∧
      entered (w.registry i) s <+: preorder s ∧
      (∀ t, Compiles (w.registry i) s t → entered (w.registry i) s = preorder s) ∧
      (∀ e, (compile (w.registry i) s).outcome = .error e → ∃ n ∈ entered (w.registry i) s,
        (compile (w.registry i) n).outcome = .error e ∧ Faulted (w.registry i) e n) ∧
      (w.verbose = false → ∀ operation, (w.step operation).2.reports = []) ∧
      ∀ operations, (w.run operations).1.verbose = true ↔
        w.verbose = true ∨ .openTransformer true ∈ operations := by
  have prefixed := entered_preorder (w.registry i) s
  refine ⟨?_, prefixed.1, prefixed.2, fun e => exists_entered_faulted,
    fun quiet => Workspace.reports_quiet quiet, w.verbose_run⟩
  show w.shown (compile (w.registry i) s).trace = _
  rw [trace_compile]
  rfl

/-- A union with a kind twice goes through the items twice. The node with an unknown type ends the
walk before the last property, and reports nothing of itself. -/
theorem reports_of_entered_repeated :
    let leaf : Value := .object [("type", .text "string")]
    let twice : Value :=
      .object [("type", .list [.text "array", .text "array"]), ("items", .list [leaf, .object []])]
    let unknown : Value := .object [("type", .text "strin")]
    let s : Value := .object [("type", .text "object"),
      ("properties", .object [("a", twice), ("b", unknown), ("c", leaf)])]
    let w : Workspace := ⟨[.empty], true⟩
    (preorder s).map Value.written =
        [s, twice, leaf, .object [], leaf, .object [], unknown, leaf].map Value.written ∧
      (entered .empty s).map Value.written =
        [s, twice, leaf, .object [], leaf, .object [], unknown].map Value.written ∧
      (w.step (.transform 0 s)).2.reports.map Report.text =
        ["Transforming object schema", "Transforming union schema of ['array', 'array']",
          "Transforming string schema", "Transforming string schema"].map .ok ∧
      (Workspace.initial.step (.transform 0 s)).2.reports = [] := by
  intro leaf twice unknown s w
  refine ⟨by decide +kernel, by decide +kernel, ?_,
    (reports_of_entered .initial 0 s).2.2.2.2.1 rfl _⟩
  rw [(reports_of_entered w 0 s).1]
  decide +kernel

end Conform
