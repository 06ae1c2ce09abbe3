import Conform.Descriptor.Basic
import Conform.Predicate.Check

namespace Conform.Descriptor

/-- The label of the first member that equals the value as a document. -/
def memberLabel? (members : List (Value × Value)) (v : Value) : Option Value :=
  (members.find? fun m => v.documentEq m.1).map Prod.snd

mutual

/-- Whether a value conforms. Parts are tried in order and only as long as the answer is open. -/
def check (host : Host) : Descriptor → Value → Check Bool
  | .any, _ => pure true
  | .primitive kind, v => pure (kind.accepts v)
  | .enumeration members, v => pure (memberLabel? members v).isSome
  | .refined base p, v => do if ← base.check host v then p.check host v else pure false
  | .maybe type, v => if v.isNull then pure true else type.check host v
  | .struct fields _, v =>
    match v with
    | .object entries => checkFields host fields entries
    | _ => pure false
  | .list element, v =>
    match v.items? with
    | some items => Traced.all (fun item => element.check host item) items
    | none => pure false
  | .tuple elements, v =>
    match v.items? with
    | some items =>
      if items.length = elements.length then checkEach host elements items else pure false
    | none => pure false
  | .union branches, v => Option.isSome <$> dispatch host branches v

/-- A missing field is allowed only if it is optional; keys that are no fields do not matter. -/
def checkFields (host : Host) :
    List (String × Descriptor) → List (String × Value) → Check Bool
  | [], _ => pure true
  | (key, type) :: fields, entries =>
    match entries.lookup key with
    | none => if type.isMaybe then checkFields host fields entries else pure false
    | some v => do if ← type.check host v then checkFields host fields entries else pure false

/-- Each item against the type at its position. -/
def checkEach (host : Host) : List Descriptor → List Value → Check Bool
  | type :: types, v :: items => do
    if ← type.check host v then checkEach host types items else pure false
  | _, _ => pure true

/-- The place of the first branch that accepts the value. -/
def dispatch (host : Host) : List Descriptor → Value → Check (Option Nat)
  | [], _ => pure none
  | branch :: branches, v => do
    if ← branch.check host v then pure (some 0)
    else
      let later ← dispatch host branches v
      pure (later.map (· + 1))

end

end Conform.Descriptor
