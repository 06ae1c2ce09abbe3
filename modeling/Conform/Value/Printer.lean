import Conform.Fault
import Conform.Number.Shortest
import Conform.Text.Numeral
import Conform.Text.Quoted

namespace Conform.Value

/-- A tuple of one item keeps a comma. -/
def tupleText : List String → String
  | [item] => "(" ++ item ++ ",)"
  | items => "(" ++ ", ".intercalate items ++ ")"

mutual

/-- As a value is written in names and messages. A whole number of too many digits cannot be
written, and neither can what holds one. -/
def written : Value → Except Fault String
  | .null => .ok "None"
  | .bool b => .ok (if b then "True" else "False")
  | .int n =>
    if n.natAbs < Nat.pow 10 Text.longestNumber then .ok (toString n) else .error .numberTooLong
  | .float x => .ok x.text
  | .text s => .ok (Text.quoted s)
  | .list items => do
    let parts ← writtenItems items
    pure ("[" ++ ", ".intercalate parts ++ "]")
  | .tuple items => do
    let parts ← writtenItems items
    pure (tupleText parts)
  | .object entries => do
    let parts ← writtenEntries entries
    pure ("\x7b" ++ ", ".intercalate parts ++ "\x7d")

def writtenItems : List Value → Except Fault (List String)
  | [] => .ok []
  | x :: xs => do
    let first ← written x
    let rest ← writtenItems xs
    pure (first :: rest)

def writtenEntries : List (String × Value) → Except Fault (List String)
  | [] => .ok []
  | (key, x) :: entries => do
    let first ← written x
    let rest ← writtenEntries entries
    pure ((Text.quoted key ++ ": " ++ first) :: rest)

end

/-- As part of a longer text: a text stands as it is, any other value as it is written. -/
def plain : Value → Except Fault String
  | .text s => .ok s
  | v => v.written

end Conform.Value
