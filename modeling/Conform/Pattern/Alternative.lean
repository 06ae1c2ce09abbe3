import Conform.Pattern.Node

namespace Conform.Pattern

/-- Groups that neither capture nor set flags give way to their contents. -/
def unpack (nodes : List Node) : List Node :=
  nodes.flatMap fun node =>
    match node with
    | .group none [] [] body => body
    | node => [node]

/-- The nodes that all alternatives start with, and what is left of each. -/
def commonStart : List Node → List (List Node) → List Node × List Node × List (List Node)
  | [], others => ([], [], others)
  | node :: rest, others =>
    if others.all fun other => (other.head?.map node.same).getD false then
      let (start, first, others) := commonStart rest (others.map (·.drop 1))
      (node :: start, first, others)
    else ([], node :: rest, others)

/-- The members of an alternative that is a single character or a set that is not negated. -/
def members? : List Node → Option (List Member)
  | [.literal code] => some [.literal code]
  | [.set false members] => some members
  | _ => none

/-- One node sequence for a list of alternatives: what they share comes first, and alternatives that
are single characters make one set. -/
def joinAlternatives : List (List Node) → List Node
  | [] => []
  | [body] => body
  | body :: others =>
    let (start, first, others) := commonStart body others
    match (first :: others).mapM members? with
    | some members => start ++ [.set false members.flatten.eraseDups]
    | none => start ++ [.branch (first :: others)]

end Conform.Pattern
