import Conform.Pattern.Node
import Conform.Text.Blank
import Conform.Text.Case
import Conform.Text.Letter
import Conform.Text.Numeral

namespace Conform.Pattern

def isAsciiDigit (c : Nat) : Bool :=
  0x30 ≤ c && c ≤ 0x39

def isAsciiUpper (c : Nat) : Bool :=
  0x41 ≤ c && c ≤ 0x5A

def isAsciiLower (c : Nat) : Bool :=
  0x61 ≤ c && c ≤ 0x7A

def isWord (unicode : Bool) (c : Nat) : Bool :=
  c == 0x5F || isAsciiDigit c || isAsciiUpper c || isAsciiLower c ||
    (unicode && 0x80 ≤ c && (Text.isLetter c || Text.isNumeral c))

def isSpace (unicode : Bool) (c : Nat) : Bool :=
  if unicode then Text.isBlank c else c == 0x20 || (9 ≤ c && c ≤ 13)

def isDigit (unicode : Bool) (c : Nat) : Bool :=
  if unicode then Text.isDigit c else isAsciiDigit c

def Category.holds (category : Category) (unicode : Bool) (c : Nat) : Bool :=
  match category with
  | .digit => isDigit unicode c
  | .space => isSpace unicode c
  | .word => isWord unicode c

/-- Lower case, within the alphabet that the flags choose. -/
def fold (unicode : Bool) (c : Nat) : Nat :=
  if unicode then Text.lower c else if isAsciiUpper c then c + 0x20 else c

def hasCase (unicode : Bool) (c : Nat) : Bool :=
  if unicode then Text.isCased c else isAsciiUpper c || isAsciiLower c

/-- The folded code points that a folded one stands for when case is ignored. -/
def equivalents (unicode : Bool) (c : Nat) : List Nat :=
  if unicode then c :: Text.twins c else [c]

/-- The code points whose folded form is `c`. -/
def foldSources (unicode : Bool) (c : Nat) : List Nat :=
  if unicode then Text.lowerSources c
  else if isAsciiLower c then [c, c - 0x20]
  else if isAsciiUpper c then []
  else [c]

/-- The last code point of the basic plane. Beyond it sets are not folded. -/
def basicLimit : Nat :=
  0xFFFF

namespace Member

def accepts (unicode : Bool) (c : Nat) : Member → Bool
  | .literal code => c == code
  | .range first last => first ≤ c && c ≤ last
  | .category which negated => which.holds unicode c != negated

/-- Whether a set with this member has to compare folded code points. -/
def needsFold (unicode : Bool) : Member → Bool
  | .literal code => basicLimit < code || hasCase unicode code
  | .range first last =>
    basicLimit < last ||
      (if unicode then Text.hasCasedBetween first last
      else (first ≤ 0x5A && 0x41 ≤ last) || (first ≤ 0x7A && 0x61 ≤ last))
  | .category _ _ => false

/-- Acceptance of a folded code point. A range that goes beyond the basic plane also accepts `c` by
its upper case. -/
def acceptsFolded (unicode : Bool) (c : Nat) : Member → Bool
  | .literal code =>
    if basicLimit < code then c == code else (equivalents unicode (fold unicode code)).contains c
  | .range first last =>
    let inside := fun source => first ≤ source && source ≤ last
    (equivalents unicode c).any (fun folded =>
      (foldSources unicode folded).any fun source => source ≤ basicLimit && inside source) ||
    (basicLimit < last && (inside c || inside (Text.upper c)))
  | .category which negated => which.holds unicode c != negated

end Member

def acceptsLiteral (flags : List Flag) (code c : Nat) : Bool :=
  let unicode := flags.contains .unicode
  if flags.contains .ignoreCase && hasCase unicode code then
    (equivalents unicode (fold unicode code)).contains (fold unicode c)
  else c == code

def acceptsMember (flags : List Flag) (members : List Member) (c : Nat) : Bool :=
  let unicode := flags.contains .unicode
  if flags.contains .ignoreCase && members.any (·.needsFold unicode) then
    members.any (·.acceptsFolded unicode (fold unicode c))
  else members.any (·.accepts unicode c)

/-- Acceptance by a node that takes exactly one code point; no other node accepts any. -/
def Node.accepts (flags : List Flag) (c : Nat) : Node → Bool
  | .literal code => acceptsLiteral flags code c
  | .otherThan code => !acceptsLiteral flags code c
  | .any => flags.contains .dotAll || c != 0x0A
  | .set negated members => acceptsMember flags members c != negated
  | _ => false

end Conform.Pattern
