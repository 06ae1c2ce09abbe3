namespace Conform.Pattern

inductive Flag where
  | ignoreCase
  | multiline
  | dotAll
  | verbose
  | ascii
  | unicode
  | template
deriving DecidableEq

namespace Flag

/-- The letter for a flag inside a pattern. -/
def ofLetter? : Char → Option Flag
  | 'i' => some .ignoreCase
  | 'm' => some .multiline
  | 's' => some .dotAll
  | 'x' => some .verbose
  | 'a' => some .ascii
  | 'u' => some .unicode
  | 't' => some .template
  | _ => none

/-- Flags that choose the alphabet; at most one of them holds. -/
def isAlphabet : Flag → Bool
  | .ascii => true
  | .unicode => true
  | _ => false

end Flag

/-- The flags inside a group: a new alphabet replaces the old one. -/
def regroup (flags on off : List Flag) : List Flag :=
  let kept := if on.any Flag.isAlphabet then flags.filter (!·.isAlphabet) else flags
  (kept ++ on).filter (!off.contains ·)

end Conform.Pattern
