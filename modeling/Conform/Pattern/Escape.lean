import Conform.Pattern.Reading
import Conform.Text.CharacterName

namespace Conform.Pattern

open Read

def isOctal (c : Char) : Bool :=
  '0' ≤ c && c ≤ '7'

def isDecimal (c : Char) : Bool :=
  '0' ≤ c && c ≤ '9'

def isHexadecimal (c : Char) : Bool :=
  isDecimal c || ('a' ≤ c && c ≤ 'f') || ('A' ≤ c && c ≤ 'F')

def digit (c : Char) : Nat :=
  if isDecimal c then c.toNat - '0'.toNat
  else if 'a' ≤ c then c.toNat - 'a'.toNat + 10
  else c.toNat - 'A'.toNat + 10

def numeral (base : Nat) (cs : List Char) : Nat :=
  cs.foldl (fun n c => base * n + digit c) 0

def isAsciiLetter (c : Char) : Bool :=
  ('a' ≤ c && c ≤ 'z') || ('A' ≤ c && c ≤ 'Z')

/-- Control characters and the backslash by their escapes. -/
def controlCode? : Char → Option Nat
  | 'a' => some 7
  | 'b' => some 8
  | 't' => some 9
  | 'n' => some 10
  | 'v' => some 11
  | 'f' => some 12
  | 'r' => some 13
  | '\\' => some 92
  | _ => none

def category? : Char → Option Member
  | 'd' => some (.category .digit false)
  | 'D' => some (.category .digit true)
  | 's' => some (.category .space false)
  | 'S' => some (.category .space true)
  | 'w' => some (.category .word false)
  | 'W' => some (.category .word true)
  | _ => none

def anchor? : Char → Option Anchor
  | 'A' => some .textStart
  | 'Z' => some .textEnd
  | 'b' => some .boundary
  | 'B' => some .inside
  | _ => none

def escapeText (cs : List Char) : String :=
  String.ofList ('\\' :: cs)

/-- Exactly that many hexadecimal digits. -/
def readHex (c : Char) (count : Nat) : Read Nat := do
  let digits ← takeWhile isHexadecimal count
  if digits.length = count then
    let code := numeral 16 digits
    if 0x10FFFF < code then failBack (.badEscape (escapeText (c :: digits))) (2 + count)
    else pure code
  else failBack (.incompleteEscape (escapeText (c :: digits))) (2 + digits.length)

/-- Escapes that give a code point by number or name. -/
def readCode? (c : Char) : Read (Option Nat) := do
  match c with
  | 'x' => some <$> readHex c 2
  | 'u' => some <$> readHex c 4
  | 'U' => some <$> readHex c 8
  | 'N' =>
    unless ← accept '\x7b' do failBack .missingBrace 0
    let name := String.ofList (← takeName '\x7d' "character name")
    match Text.namedCharacter? name with
    | some code => pure (some code)
    | none => failBack (.unknownCharacter name) (name.length + 4)
  | _ => pure none

/-- Any other character stands for itself, save for letters. -/
def readPlainEscape (c : Char) : Read Nat := do
  if isAsciiLetter c then failBack (.badEscape (escapeText [c])) 2 else pure c.toNat

def readOctal (digits : List Char) : Read Nat := do
  let code := numeral 8 digits
  if 0o377 < code then failBack (.octalTooLarge (escapeText digits)) (digits.length + 1)
  else pure code

/-- An escape inside a character set. -/
def readMember (c : Char) : Read Member := do
  if let some code := controlCode? c then pure (.literal code)
  else if let some member := category? c then pure member
  else if let some code ← readCode? c then pure (.literal code)
  else if isOctal c then
    let more ← takeWhile isOctal 2
    .literal <$> readOctal (c :: more)
  else if isDecimal c then failBack (.badEscape (escapeText [c])) 2
  else .literal <$> readPlainEscape c

def Reading.closedWidth? (s : Reading) (group : Nat) : Option Width :=
  if group = 0 then none else (s.widths[group - 1]?).join

/-- Inside a lookbehind only groups that closed before it can be referred to. -/
def checkLookbehind (group : Nat) : Read Unit := do
  let s ← get
  match s.lookbehind with
  | none => pure ()
  | some before =>
    if (s.closedWidth? group).isNone then failBack .groupStillOpen 0
    else if before < group then failBack .groupInSameLookbehind 0

/-- A reference to a group that must have been closed; `length` is that of the reference's text. -/
def readBackref (group length : Nat) : Read Node := do
  match (← get).closedWidth? group with
  | none => failBack .groupStillOpen length
  | some width =>
    checkLookbehind group
    pure (.backref group width)

/-- A digit other than zero starts a group reference of one or two digits, or else three octal ones.
-/
def readNumberEscape (c : Char) : Read Node := do
  let more ← takeWhile isDecimal 1
  let last ←
    if more.length = 1 && (c :: more).all isOctal then takeWhile isOctal 1 else pure []
  let digits := c :: more ++ last
  if digits.length = 3 then .literal <$> readOctal digits
  else
    let group := numeral 10 digits
    if group ≤ (← get).widths.length then readBackref group (digits.length + 1)
    else failBack (.unknownGroupNumber group) digits.length

/-- An escape outside character sets. -/
def readEscape (c : Char) : Read Node := do
  if let some anchor := anchor? c then pure (.anchor anchor)
  else if let some member := category? c then pure (.set false [member])
  else if let some code := controlCode? c then pure (.literal code)
  else if let some code ← readCode? c then pure (.literal code)
  else if c = '0' then
    let more ← takeWhile isOctal 2
    pure (.literal (numeral 8 more))
  else if isDecimal c then readNumberEscape c
  else .literal <$> readPlainEscape c

end Conform.Pattern
