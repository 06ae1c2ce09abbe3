import Conform.Pattern.Flag

namespace Conform.Pattern

/-- Code points by numeric value, blank, and word membership. -/
inductive Category where
  | digit
  | space
  | word
deriving DecidableEq

/-- A member of a character set. Code points are numbers, since a pattern can name surrogates. -/
inductive Member where
  | literal (code : Nat)
  | range (first last : Nat)
  | category (category : Category) (negated : Bool)
deriving DecidableEq

/-- What a node can ask of a place in the text. -/
inductive Anchor where
  | lineStart
  | lineEnd
  | textStart
  | textEnd
  | boundary
  | inside
deriving DecidableEq

inductive Greed where
  | greedy
  | lazy
  | possessive
deriving DecidableEq

/-- The least and the greatest number of code points that a pattern consumes. -/
structure Width where
  least : Nat
  most : Nat
deriving DecidableEq

inductive Node where
  | literal (code : Nat)
  | otherThan (code : Nat)
  | any
  | set (negated : Bool) (members : List Member)
  | anchor (anchor : Anchor)
  | backref (group : Nat) (width : Width)
  | group (number : Option Nat) (on off : List Flag) (body : List Node)
  | atomic (body : List Node)
  | branch (alternatives : List (List Node))
  | condition (group : Nat) (held missing : List Node)
  | look (ahead negated : Bool) (body : List Node)
  | repeated (greed : Greed) (least : Nat) (most : Option Nat) (body : List Node)

/-- Equality of two nodes that have no parts; nodes with parts are never the same. -/
def Node.same : Node → Node → Bool
  | .literal a, .literal b => a == b
  | .otherThan a, .otherThan b => a == b
  | .any, .any => true
  | .set n ms, .set m ns => n == m && ms == ns
  | .anchor a, .anchor b => a == b
  | .backref a _, .backref b _ => a == b
  | _, _ => false

namespace Width

/-- Widths are counted up to this limit only. -/
def limit : Nat :=
  Nat.pow 2 64

def clamp (w : Width) : Width :=
  ⟨min w.least limit, min w.most limit⟩

def add (a b : Width) : Width :=
  ⟨a.least + b.least, a.most + b.most⟩

def either (a b : Width) : Width :=
  ⟨min a.least b.least, max a.most b.most⟩

def times (w : Width) (least : Nat) : Option Nat → Width
  | some most => ⟨w.least * least, w.most * most⟩
  | none => ⟨w.least * least, if w.most = 0 then 0 else limit⟩

end Width

mutual

def Node.width : Node → Width
  | .literal _ => ⟨1, 1⟩
  | .otherThan _ => ⟨1, 1⟩
  | .any => ⟨1, 1⟩
  | .set _ _ => ⟨1, 1⟩
  | .anchor _ => ⟨0, 0⟩
  | .backref _ width => width
  | .group _ _ _ body => (sequenceWidth body).clamp
  | .atomic body => (sequenceWidth body).clamp
  | .branch alternatives => branchWidth alternatives
  | .condition _ held missing => (sequenceWidth held).clamp.either (sequenceWidth missing).clamp
  | .look _ _ _ => ⟨0, 0⟩
  | .repeated _ least most body => (sequenceWidth body).clamp.times least most

def sequenceWidth : List Node → Width
  | [] => ⟨0, 0⟩
  | node :: rest => node.width.add (sequenceWidth rest)

def branchWidth : List (List Node) → Width
  | [] => ⟨Width.limit, 0⟩
  | body :: rest => (sequenceWidth body).clamp.either (branchWidth rest)

end

/-- The width of a whole pattern or of the inside of a group. -/
def width (body : List Node) : Width :=
  (sequenceWidth body).clamp

end Conform.Pattern
