namespace Conform

/-- The order relations that a bound can ask for. -/
inductive Relation where
  | less
  | atMost
  | greater
  | atLeast
deriving DecidableEq

namespace Relation

def symbol : Relation → String
  | .less => "<"
  | .atMost => "<="
  | .greater => ">"
  | .atLeast => ">="

/-- Each relation by way of the two that point upwards. -/
def holds {α : Type} (less atMost : α → α → Bool) (relation : Relation) (a b : α) : Bool :=
  match relation with
  | .less => less a b
  | .atMost => atMost a b
  | .greater => less b a
  | .atLeast => atMost b a

end Relation
end Conform
