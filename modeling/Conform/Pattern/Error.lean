import Conform.Pattern.Node
import Conform.Text.Quoted

namespace Conform.Pattern

/-- Mistakes that a place in the text can be given for. -/
inductive Issue where
  | trailingBackslash
  | badEscape (escape : String)
  | incompleteEscape (escape : String)
  | octalTooLarge (escape : String)
  | missingBrace
  | missingName (what : String)
  | unterminatedName (terminator : Char)
  | unknownCharacter (name : String)
  | unknownGroupNumber (group : Nat)
  | groupStillOpen
  | groupInSameLookbehind
  | unterminatedSet
  | badRange (first last : String)
  | leastAboveMost
  | nothingToRepeat
  | multipleRepeat
  | unexpectedEnd
  | badGroupName (name : String)
  | unknownGroupName (name : String)
  | badGroupNumber
  | redefinedGroup (name : String) (new old : Nat)
  | unknownExtension (extension : String)
  | unterminatedComment
  | unterminatedGroup
  | tooManyBranches
  | lateGlobalFlags
  | localeFlag
  | incompatibleAlphabets
  | unknownFlag
  | missingFlag
  | missingColon
  | missingFlagEnd
  | globalFlagOn
  | globalFlagOff
  | alphabetOff
  | flagOnAndOff
  | unbalancedParenthesis
  | variableLookbehind
  | lookbehindTooWide
  | repeatInTemplate (greed : Greed)
deriving DecidableEq

def Greed.code : Greed → String
  | .greedy => "MAX_REPEAT"
  | .lazy => "MIN_REPEAT"
  | .possessive => "POSSESSIVE_REPEAT"

def Issue.message : Issue → String
  | .trailingBackslash => "bad escape (end of pattern)"
  | .badEscape escape => "bad escape " ++ escape
  | .incompleteEscape escape => "incomplete escape " ++ escape
  | .octalTooLarge escape => s!"octal escape value {escape} outside of range 0-0o377"
  | .missingBrace => "missing \x7b"
  | .missingName what => "missing " ++ what
  | .unterminatedName terminator => s!"missing {terminator}, unterminated name"
  | .unknownCharacter name => "undefined character name " ++ Text.quoted name
  | .unknownGroupNumber group => s!"invalid group reference {group}"
  | .groupStillOpen => "cannot refer to an open group"
  | .groupInSameLookbehind => "cannot refer to group defined in the same lookbehind subpattern"
  | .unterminatedSet => "unterminated character set"
  | .badRange first last => s!"bad character range {first}-{last}"
  | .leastAboveMost => "min repeat greater than max repeat"
  | .nothingToRepeat => "nothing to repeat"
  | .multipleRepeat => "multiple repeat"
  | .unexpectedEnd => "unexpected end of pattern"
  | .badGroupName name => "bad character in group name " ++ Text.quoted name
  | .unknownGroupName name => "unknown group name " ++ Text.quoted name
  | .badGroupNumber => "bad group number"
  | .redefinedGroup name new old =>
    s!"redefinition of group name {Text.quoted name} as group {new}; was group {old}"
  | .unknownExtension extension => "unknown extension ?" ++ extension
  | .unterminatedComment => "missing ), unterminated comment"
  | .unterminatedGroup => "missing ), unterminated subpattern"
  | .tooManyBranches => "conditional backref with more than two branches"
  | .lateGlobalFlags => "global flags not at the start of the expression"
  | .localeFlag => "bad inline flags: cannot use 'L' flag with a str pattern"
  | .incompatibleAlphabets => "bad inline flags: flags 'a', 'u' and 'L' are incompatible"
  | .unknownFlag => "unknown flag"
  | .missingFlag => "missing flag"
  | .missingColon => "missing :"
  | .missingFlagEnd => "missing -, : or )"
  | .globalFlagOn => "bad inline flags: cannot turn on global flag"
  | .globalFlagOff => "bad inline flags: cannot turn off global flag"
  | .alphabetOff => "bad inline flags: cannot turn off flags 'a', 'u' and 'L'"
  | .flagOnAndOff => "bad inline flags: flag turned on and off"
  | .unbalancedParenthesis => "unbalanced parenthesis"
  | .variableLookbehind => "look-behind requires fixed-width pattern"
  | .lookbehindTooWide => "looks too much behind"
  | .repeatInTemplate greed => "internal: unsupported template operator " ++ greed.code

/-- Why a text is no pattern. Only the first of these counts as a mistake in the pattern's grammar;
the others are limits met while reading it. -/
inductive Error where
  | malformed (issue : Issue) (position : Option Nat)
  | repeatTooLarge
  | incompatibleFlags
  | numberTooLong (digits : Nat)
deriving DecidableEq

/-- Lines and columns count from one; they are given only for patterns of several lines. -/
def placed (source : List Char) (position : Nat) : String :=
  if source.contains '\n' then
    let before := source.take position
    let line := before.count '\n' + 1
    let column := (before.reverse.takeWhile (· != '\n')).length + 1
    s!" at position {position} (line {line}, column {column})"
  else s!" at position {position}"

def Error.message (source : String) : Error → String
  | .malformed issue none => issue.message
  | .malformed issue (some position) => issue.message ++ placed source.toList position
  | .repeatTooLarge => "the repetition number is too large"
  | .incompatibleFlags => "ASCII and UNICODE flags are incompatible"
  | .numberTooLong digits =>
    s!"Exceeds the limit (4300 digits) for integer string conversion: value has {digits} digits; " ++
      "use sys.set_int_max_str_digits() to increase the limit"

end Conform.Pattern
