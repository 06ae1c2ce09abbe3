import Conform.Pattern.Basic
import Conform.Relation
import Conform.Value.Access
import Conform.Value.Equality
import Conform.Value.Printer

namespace Conform

/-- What stands behind a format: a function known by its handle, or a value that cannot be called.
-/
inductive Callee where
  | function (handle : String)
  | value (value : Value)

/-- A single constraint on a value, or a conjunction of two. -/
inductive Predicate where
  | minLength (least : Value)
  | maxLength (most : Value)
  | pattern (pattern : Pattern)
  | format (name : Value) (callee : Callee)
  | bound (relation : Relation) (limit : Value)
  | whole
  | distinct
  | both (left right : Predicate)

/-- Functions are equal if they have one handle. -/
def Callee.equal : Callee → Callee → Bool
  | .function f, .function g => f == g
  | .value v, .value w => v.looseEq w
  | _, _ => false

/-- The word for a bound. -/
def Relation.word : Relation → String
  | .less => "lt"
  | .atMost => "lte"
  | .greater => "gt"
  | .atLeast => "gte"

namespace Predicate

/-- The word for the constraint. -/
def word : Predicate → String
  | .minLength _ => "minLength"
  | .maxLength _ => "maxLength"
  | .pattern _ => "pattern"
  | .format _ _ => "format"
  | .bound relation _ => relation.word
  | .whole => "integer"
  | .distinct => "uniqueItems"
  | .both _ _ => "and"

/-- The values that a single constraint is written with. -/
def parameters : Predicate → List Value
  | .minLength least => [least]
  | .maxLength most => [most]
  | .pattern p => [.text p.source]
  | .format name _ => [name]
  | .bound _ limit => [limit]
  | _ => []

/-- The single constraints of a conjunction, in the order in which they are tested. -/
def leaves : Predicate → List Predicate
  | .both left right => left.leaves ++ right.leaves
  | p => [p]

def text : Predicate → Except Fault String
  | .both left right => do
    let first ← left.text
    let rest ← right.text
    pure (first ++ " & " ++ rest)
  | p => do
    let parts ← p.parameters.mapM Value.written
    pure (p.word ++ "(" ++ ", ".intercalate parts ++ ")")

/-- Adds a predicate to those gathered so far, to be tested after them. -/
def conjoin : Option Predicate → Predicate → Predicate
  | none, p => p
  | some q, p => .both q p

/-- Equality of constraints with loosely equal parameters; conjunctions are equal part by part. -/
def equal : Predicate → Predicate → Bool
  | .minLength v, .minLength w => v.looseEq w
  | .maxLength v, .maxLength w => v.looseEq w
  | .pattern p, .pattern q => p.source == q.source
  | .format v f, .format w g => v.looseEq w && f.equal g
  | .bound r v, .bound s w => r == s && v.looseEq w
  | .whole, .whole => true
  | .distinct, .distinct => true
  | .both p q, .both r s => p.equal r && q.equal s
  | _, _ => false

/-- Whether all parameters can be hashed; a format is hashed by its name alone. -/
def hashable : Predicate → Except Fault Unit
  | .both left right => do
    left.hashable
    right.hashable
  | .minLength v => v.hashable
  | .maxLength v => v.hashable
  | .format name _ => name.hashable
  | .bound _ limit => limit.hashable
  | _ => .ok ()

end Predicate
end Conform
