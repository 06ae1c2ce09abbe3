import Conform.Descriptor.Equality

namespace Conform

/-- What can be compared: a type, a predicate or a plain value. -/
inductive Item where
  | type (type : Descriptor)
  | predicate (predicate : Predicate)
  | value (value : Value)

namespace Item

/-- Items of different sorts are never equal. -/
def equal : Item → Item → Bool
  | .type t, .type u => t.equal u
  | .predicate p, .predicate q => p.equal q
  | .value v, .value w => v.looseEq w
  | _, _ => false

def hashable : Item → Except Fault Unit
  | .type t => t.hashable
  | .predicate p => p.hashable
  | .value v => v.hashable

/-- The items without those that equal an earlier one. -/
def distinct (items : List Item) : List Item :=
  items.foldl (fun kept x => if kept.any (·.equal x) then kept else kept ++ [x]) []

def hashableAll : List Item → Except Fault Unit
  | [] => .ok ()
  | x :: xs => do
    x.hashable
    hashableAll xs

/-- The size of the set of the items. -/
def count (items : List Item) : Except Fault Nat := do
  hashableAll items
  pure (distinct items).length

end Item
end Conform
