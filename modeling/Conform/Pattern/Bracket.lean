import Conform.Pattern.Escape

namespace Conform.Pattern

open Read

def readSign (sign : Sign) : Read Member :=
  match sign with
  | .plain c => pure (.literal c.toNat)
  | .escape c => readMember c
  | .backslash => pure (.literal 92)

/-- The members of a set that opened at `start`, newest first. A closing bracket in first place
stands for itself. -/
def readMembers (start : Nat) : Nat → List Member → Read (List Member)
  | 0, found => pure found
  | fuel + 1, found => do
    let some sign ← next | failAt .unterminatedSet start
    if sign = .plain ']' && !found.isEmpty then pure found
    else
      let first ← readSign sign
      if ← accept '-' then
        let some other ← next | failAt .unterminatedSet start
        if other = .plain ']' then pure (.literal 45 :: first :: found)
        else
          let last ← readSign other
          match first, last with
          | .literal lo, .literal hi =>
            if lo ≤ hi then readMembers start fuel (.range lo hi :: found)
            else
              failBack (.badRange sign.text other.text) (sign.chars.length + 1 + other.chars.length)
          | _, _ =>
            failBack (.badRange sign.text other.text) (sign.chars.length + 1 + other.chars.length)
      else readMembers start fuel (first :: found)

def readSet (start : Nat) : Read Node := do
  let negated ← accept '^'
  let members := (← readMembers start ((← get).rest.length + 1) []).reverse.eraseDups
  match members with
  | [.literal code] => pure (if negated then .otherThan code else .literal code)
  | _ => pure (.set negated members)

end Conform.Pattern
