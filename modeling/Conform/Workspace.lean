import Conform.Compile

namespace Conform

/-- The first registry is the shared one. -/
structure Workspace where
  registries : List Registry
  verbose : Bool

inductive Operation where
  | openRegistry
  | openTransformer (verbose : Bool)
  | register (registry : Nat) (name : Value) (callee : Callee)
  | reset (registry : Nat)
  | get (registry : Nat) (name : Value)
  | names (registry : Nat)
  | contains (registry : Nat) (name : Value)
  | transform (registry : Nat) (schema : Value)

inductive Answer where
  | done
  | opened (registry : Nat)
  | function (handle : String)
  | names (names : List Value)
  | holds (answer : Bool)
  | type (type : Descriptor)

/-- What an operation answers, and the reports that are shown meanwhile. -/
structure Response where
  reports : List Report
  outcome : Except Error Answer

namespace Workspace

def initial : Workspace :=
  ⟨[.empty], false⟩

def registry (w : Workspace) (i : Nat) : Registry :=
  (w.registries[i]?).getD .empty

/-- Reports are shown only while the workspace is verbose. -/
def shown (w : Workspace) (reports : List Report) : List Report :=
  if w.verbose then reports else []

def transform (w : Workspace) (i : Nat) (schema : Value) : Compile Descriptor :=
  let run := compile (w.registry i) schema
  ⟨w.shown run.trace, run.outcome⟩

/-- Once verbose, a workspace stays so. -/
def step (w : Workspace) : Operation → Workspace × Response
  | .openRegistry =>
    ({ w with registries := w.registries ++ [.empty] }, ⟨[], .ok (.opened w.registries.length)⟩)
  | .openTransformer verbose => ({ w with verbose := w.verbose || verbose }, ⟨[], .ok .done⟩)
  | .register i name callee =>
    let (r, outcome) := (w.registry i).register name callee
    ({ w with registries := w.registries.set i r },
      match outcome with
      | .ok _ => ⟨w.shown [.registered name], .ok .done⟩
      | .error e => ⟨[], .error e⟩)
  | .reset i =>
    ({ w with registries := w.registries.set i .empty }, ⟨w.shown [.reset], .ok .done⟩)
  | .get i name => (w, ⟨[], Answer.function <$> (w.registry i).get name⟩)
  | .names i => (w, ⟨[], .ok (.names (w.registry i).names)⟩)
  | .contains i name =>
    (w, ⟨[], (Answer.holds <$> (w.registry i).contains name).mapError .fault⟩)
  | .transform i schema =>
    let run := w.transform i schema
    (w, ⟨run.trace, Answer.type <$> run.outcome⟩)

/-- The responses to a run of operations, one after another. -/
def run (w : Workspace) : List Operation → Workspace × List Response
  | [] => (w, [])
  | operation :: rest =>
    let (w, response) := w.step operation
    let (w, responses) := w.run rest
    (w, response :: responses)

end Workspace
end Conform
