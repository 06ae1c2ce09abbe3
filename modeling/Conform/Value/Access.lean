import Conform.Fault

namespace Conform.Value

/-- Texts count code points, objects their keys. -/
def length : Value → Except Fault Nat
  | .text s => .ok s.length
  | .list items => .ok items.length
  | .tuple items => .ok items.length
  | .object entries => .ok entries.length
  | v => .error (.noLength v.form)

def elements? : Value → Option (List Value)
  | .text s => some (s.toList.map fun c => .text (String.singleton c))
  | .list items => some items
  | .tuple items => some items
  | .object entries => some (entries.map fun (key, _) => .text key)
  | _ => none

/-- A text yields its characters, an object its keys. -/
def elements (v : Value) : Except Fault (List Value) :=
  match v.elements? with
  | some items => .ok items
  | none => .error (.notIterable v.form)

/-- The two elements of a value that has exactly two. -/
def pair (v : Value) : Except Fault (Value × Value) :=
  match v.elements? with
  | none => .error (.notUnpackable v.form)
  | some [a, b] => .ok (a, b)
  | some (_ :: _ :: _ :: _) => .error (.tooManyItems 2)
  | some items => .error (.tooFewItems 2 items.length)

mutual

/-- Lists and objects cannot be hashed, nor can a tuple that holds one; the first one met counts. -/
def hashable : Value → Except Fault Unit
  | .list _ => .error (.unhashable .list)
  | .object _ => .error (.unhashable .object)
  | .tuple items => hashableItems items
  | _ => .ok ()

def hashableItems : List Value → Except Fault Unit
  | [] => .ok ()
  | x :: xs => do
    hashable x
    hashableItems xs

end

end Conform.Value
