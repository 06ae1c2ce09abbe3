namespace Conform.Text.Name

/-- Consecutive characters from `first` on. Names are separated by semicolons or the ends of lines; a
digit before a name says how many words it takes over from the name before. -/
structure Run where
  first : Nat
  lines : List String

/-- The words of a name, given those of the name before. -/
def spell (before : List String) (entry : String) : List String :=
  match entry.toList with
  | [] => []
  | c :: cs =>
    if c.isDigit then
      before.take (c.toNat - '0'.toNat) ++ ((String.ofList cs).splitOn " ").filter (!·.isEmpty)
    else entry.splitOn " "

/-- The place of a name among entries, the first of which comes after the name `before`. -/
def index? (words before : List String) : List String → Option Nat
  | [] => none
  | entry :: rest =>
    let name := spell before entry
    if name == words then some 0 else (index? words name rest).map (· + 1)

def Run.find? (run : Run) (words : List String) : Option Nat :=
  (index? words [] (run.lines.flatMap (·.splitOn ";"))).map (run.first + ·)

end Conform.Text.Name
