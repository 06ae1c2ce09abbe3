import Conform.Error

namespace Conform

/-- Names are distinct up to loose equality. Each comes with the handle of its function. -/
structure Registry where
  formats : List (Value × String)

/-- What a registry or a transformation reports while it works. -/
inductive Report where
  | registered (name : Value)
  | reset
  | entering (kind : Kind)
  | enteringUnion (kinds : List Value)

def Report.text : Report → Except Fault String
  | .registered name => do
    pure ("Registered format '" ++ (← name.plain) ++ "'")
  | .reset => .ok "Reset all formats"
  | .entering kind => .ok ("Transforming " ++ kind.name ++ " schema")
  | .enteringUnion kinds => do
    pure ("Transforming union schema of " ++ (← (Value.list kinds).written))

namespace Registry

def empty : Registry :=
  ⟨[]⟩

def names (r : Registry) : List Value :=
  r.formats.map Prod.fst

def find? (r : Registry) (name : Value) : Option String :=
  (r.formats.find? fun format => format.1.looseEq name).map Prod.snd

/-- A name that cannot be hashed cannot be asked for. -/
def contains (r : Registry) (name : Value) : Except Fault Bool := do
  name.hashable
  pure (r.find? name).isSome

def get (r : Registry) (name : Value) : Except Error String := do
  match name.hashable with
  | .error f => throw (.fault f)
  | .ok _ => pure ()
  match r.find? name with
  | some handle => pure handle
  | none => throw (.raised (.unknownFormat name))

/-- A name that is there already is refused before the function is looked at. A new name is entered
before it is reported, so it is there to stay even if the report cannot be written. -/
def register (r : Registry) (name : Value) (callee : Callee) : Registry × Except Error Unit :=
  match name.hashable with
  | .error f => (r, .error (.fault f))
  | .ok _ =>
    match r.find? name, callee with
    | some _, _ => (r, .error (.raised (.duplicateFormat name)))
    | none, .value _ => (r, .error (.raised (.uncallableFormat name)))
    | none, .function handle =>
      (⟨r.formats ++ [(name, handle)]⟩,
        ((Report.registered name).text.map fun _ => ()).mapError .fault)

end Registry
end Conform
