import Conform.Text.Name.Accent
import Conform.Text.Name.Alias
import Conform.Text.Name.Alphabet
import Conform.Text.Name.Antiquity
import Conform.Text.Name.Archipelago
import Conform.Text.Name.Brahmi
import Conform.Text.Name.Emblem
import Conform.Text.Name.Form
import Conform.Text.Name.Hieroglyph
import Conform.Text.Name.India
import Conform.Text.Name.Kana
import Conform.Text.Name.Levant
import Conform.Text.Name.Music
import Conform.Text.Name.Operator
import Conform.Text.Name.Peninsula
import Conform.Text.Name.Pictograph
import Conform.Text.Name.Radical
import Conform.Text.Name.Recent
import Conform.Text.Name.Shape
import Conform.Text.Name.Symbol
import Conform.Text.Name.Token
import Conform.Text.Name.Yi
import Conform.Text.Ranges

namespace Conform.Text

/-- The value of hexadecimal digits, letters being capitals. -/
def hexadecimal? (cs : List Char) : Option Nat :=
  cs.foldlM (fun n c =>
    if '0' ≤ c && c ≤ '9' then some (16 * n + (c.toNat - '0'.toNat))
    else if 'A' ≤ c && c ≤ 'F' then some (16 * n + (c.toNat - 'A'.toNat + 10))
    else none) 0

def leadingConsonants : List String :=
  ["G", "GG", "N", "D", "DD", "R", "M", "B", "BB", "S", "SS", "", "J", "JJ", "C", "K", "T", "P", "H"]

def syllableVowels : List String :=
  ["A", "AE", "YA", "YAE", "EO", "E", "YEO", "YE", "O", "WA", "WAE", "OE", "YO", "U", "WEO", "WE",
    "WI", "YU", "EU", "YI", "I"]

def trailingConsonants : List String :=
  ["", "G", "GG", "GS", "N", "NJ", "NH", "D", "L", "LG", "LM", "LB", "LS", "LT", "LP", "LH", "M",
    "B", "BS", "S", "SS", "NG", "J", "C", "K", "T", "P", "H"]

def isVowelLetter (c : Char) : Bool :=
  "AEIOUWY".toList.contains c

/-- Syllables are numbered by leading consonant, then by vowel, then by what follows it. -/
def hangulSyllable? (name : List Char) : Option Nat := do
  let spelling ← "HANGUL SYLLABLE ".toList.isPrefixOf? name
  let rest := spelling.dropWhile (!isVowelLetter ·)
  let lead ← leadingConsonants.idxOf? (String.ofList (spelling.takeWhile (!isVowelLetter ·)))
  let vowel ← syllableVowels.idxOf? (String.ofList (rest.takeWhile isVowelLetter))
  let trail ← trailingConsonants.idxOf? (String.ofList (rest.dropWhile isVowelLetter))
  some (0xAC00 + (lead * 21 + vowel) * 28 + trail)

/-- The unified ideographs. -/
def ideographRanges : List (Nat × Nat) :=
  [(0x3400, 0x4DBF), (0x4E00, 0x9FFF), (0x20000, 0x2A6DF), (0x2A700, 0x2B738), (0x2B740, 0x2B81D),
    (0x2B820, 0x2CEA1), (0x2CEB0, 0x2EBE0), (0x30000, 0x3134A)]

/-- The code point has four or five digits, a zero in front if need be. -/
def unifiedIdeograph? (name : List Char) : Option Nat := do
  let digits ← "CJK UNIFIED IDEOGRAPH-".toList.isPrefixOf? name
  let code ← hexadecimal? digits
  if (digits.length = 4 || digits.length = 5) && inRanges ideographRanges code then some code
  else none

/-- Labels that come before the code point in the names of whole ranges. -/
def codedRanges : List (String × List (Nat × Nat)) :=
  [("CJK COMPATIBILITY IDEOGRAPH-", [(0xF900, 0xFA6D), (0xFA70, 0xFAD9), (0x2F800, 0x2FA1D)]),
    ("KHITAN SMALL SCRIPT CHARACTER-", [(0x18B00, 0x18CD5)]),
    ("NUSHU CHARACTER-", [(0x1B170, 0x1B2FB)])]

/-- The code point is written without needless zeros. -/
def coded? (name : List Char) : Option Nat :=
  codedRanges.findSome? fun (label, ranges) => do
    let digits ← label.toList.isPrefixOf? name
    let code ← hexadecimal? digits
    if digits.length = (if code < 0x10000 then 4 else 5) && inRanges ranges code then some code
    else none

/-- Labels that come before a number, with the width of the number, the first one that is used, the
character that bears it, and the count of characters. -/
def numberedRanges : List (String × Nat × Nat × Nat × Nat) :=
  [("TANGUT COMPONENT-", 3, 1, 0x18800, 768),
    ("VARIATION SELECTOR-", 1, 1, 0xFE00, 16), ("VARIATION SELECTOR-", 1, 17, 0xE0100, 240),
    ("VS", 1, 1, 0xFE00, 16), ("VS", 1, 17, 0xE0100, 240)]

/-- A number filled up with zeros to the given width. -/
def padded (width n : Nat) : List Char :=
  let digits := (toString n).toList
  List.replicate (width - digits.length) '0' ++ digits

def numbered? (name : List Char) : Option Nat :=
  numberedRanges.findSome? fun (label, width, start, first, count) => do
    let digits ← label.toList.isPrefixOf? name
    let i ← (List.range count).find? fun i => padded width (start + i) == digits
    some (first + i)

/-- The characters whose names follow no rule. -/
def runs : List Name.Run :=
  [Name.alphabet, Name.levant, Name.india, Name.peninsula, Name.archipelago, Name.accent, Name.symbol,
    Name.shape, Name.operator, Name.radical, Name.kana, Name.yi, Name.form, Name.antiquity,
    Name.brahmi, Name.hieroglyph, Name.recent, Name.music, Name.token, Name.pictograph,
    Name.emblem].flatten

/-- The character of Unicode 14 that bears a name. The names of syllables and unified ideographs are
written in capitals; in others case does not matter. -/
def namedCharacter? (name : String) : Option Nat :=
  let capitals := name.toUpper
  hangulSyllable? name.toList
    <|> unifiedIdeograph? name.toList
    <|> coded? capitals.toList
    <|> numbered? capitals.toList
    <|> Name.aliases.lookup capitals
    <|> runs.findSome? (·.find? (capitals.splitOn " "))

end Conform.Text
