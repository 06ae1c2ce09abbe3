import Conform.Pattern.Escape
import Conform.Text.Identifier
import Conform.Text.Letter

namespace Conform.Pattern

open Read

def isFlagLetter (c : Char) : Bool :=
  c = 'L' || (Flag.ofLetter? c).isSome

/-- A sign where a flag or one of some delimiters was due. -/
def failFlag {α : Type} (sign : Sign) (otherwise : Issue) : Read α :=
  match sign with
  | .plain c => failBack (if Text.isLetter c.toNat then .unknownFlag else otherwise) 1
  | sign => failBack otherwise sign.chars.length

/-- Flags to turn on, the first of them given, with the delimiter that ends them. -/
def readFlagsOn : Nat → Char → List Flag → Read (List Flag × Char)
  | 0, c, on => pure (on, c)
  | fuel + 1, c, on => do
    match Flag.ofLetter? c with
    | none => failBack .localeFlag 0
    | some flag =>
      let on := on ++ [flag]
      if flag.isAlphabet && on.any (fun f => f.isAlphabet && f != flag) then
        failBack .incompatibleAlphabets 0
      let some sign ← next | failBack .missingFlagEnd 0
      match sign with
      | .plain d =>
        if d = ')' || d = '-' || d = ':' then pure (on, d)
        else if isFlagLetter d then readFlagsOn fuel d on
        else failFlag sign .missingFlagEnd
      | _ => failFlag sign .missingFlagEnd

/-- Flags to turn off, the first of them given, up to a colon. -/
def readFlagsOff : Nat → Char → List Flag → Read (List Flag)
  | 0, _, off => pure off
  | fuel + 1, c, off => do
    match Flag.ofLetter? c with
    | none => failBack .alphabetOff 0
    | some flag =>
      if flag.isAlphabet then failBack .alphabetOff 0
      let off := off ++ [flag]
      let some sign ← next | failBack .missingColon 0
      match sign with
      | .plain d =>
        if d = ':' then pure off
        else if isFlagLetter d then readFlagsOff fuel d off
        else failFlag sign .missingColon
      | _ => failFlag sign .missingColon

/-- What stands between an opening parenthesis and the contents of the group, if it has any. -/
inductive Opening where
  | capture (name : Option (List Char))
  | group (on off : List Flag)
  | atomic
  | look (ahead negated : Bool)
  | condition (group : Nat)
  | node (node : Node)
  | comment
  | globalFlags

/-- Flags for the whole pattern, or for one group. -/
def readFlags (c : Char) (start : Nat) (mayBeGlobal : Bool) : Read Opening := do
  let fuel := (← get).rest.length + 1
  let (on, delimiter) ← if c = '-' then pure ([], '-') else readFlagsOn fuel c []
  if delimiter = ')' then
    modify fun s => { s with flags := s.flags ++ on }
    if mayBeGlobal then pure .globalFlags else failAt .lateGlobalFlags start
  else
    if on.contains .template then failBack .globalFlagOn 1
    let off ←
      if delimiter = '-' then do
        let some sign ← next | failBack .missingFlag 0
        match sign with
        | .plain d =>
          if isFlagLetter d then readFlagsOff fuel d [] else failFlag sign .missingFlag
        | _ => failFlag sign .missingFlag
      else pure []
    if off.contains .template then failBack .globalFlagOff 1
    if on.any off.contains then failBack .flagOnAndOff 1
    pure (.group on off)

def checkGroupName (name : List Char) : Read Unit := do
  unless Text.isIdentifier name do failBack (.badGroupName (String.ofList name)) (name.length + 1)

def groupNamed (name : List Char) : Read Nat := do
  match (← get).names.lookup (String.ofList name) with
  | some group => pure group
  | none => failBack (.unknownGroupName (String.ofList name)) (name.length + 1)

def groupLimit : Nat :=
  1073741823

/-- The group that a condition asks for, by name or by number. -/
def readCondition : Read Opening := do
  let name ← takeName ')' "group name"
  let group ←
    if Text.isIdentifier name then groupNamed name
    else
      match integer? name with
      | some (.ofNat 0) => failBack .badGroupNumber (name.length + 1)
      | some (.ofNat group) =>
        if groupLimit ≤ group then failBack (.unknownGroupNumber group) (name.length + 1)
        let place := (← position) - name.length - 1
        modify fun s =>
          if (s.conditions.lookup group).isSome then s
          else { s with conditions := s.conditions ++ [(group, place)] }
        pure group
      | _ => failBack (.badGroupName (String.ofList name)) (name.length + 1)
  checkLookbehind group
  pure (.condition group)

/-- After `(?P`. -/
def readNamed : Read Opening := do
  if ← accept '<' then
    let name ← takeName '>' "group name"
    checkGroupName name
    pure (.capture (some name))
  else if ← accept '=' then
    let name ← takeName ')' "group name"
    checkGroupName name
    let group ← groupNamed name
    .node <$> readBackref group (name.length + 1)
  else
    let some sign ← next | failBack .unexpectedEnd 0
    failBack (.unknownExtension ("P" ++ sign.text)) (sign.chars.length + 2)

/-- After `(?<`. -/
def readBehind : Read Opening := do
  let some sign ← next | failBack .unexpectedEnd 0
  if sign = .plain '=' then pure (.look false false)
  else if sign = .plain '!' then pure (.look false true)
  else failBack (.unknownExtension ("<" ++ sign.text)) (sign.chars.length + 2)

/-- After a parenthesis that opened at `start`. -/
def readOpening (start : Nat) (mayBeGlobal : Bool) : Read Opening := do
  if ← accept '?' then
    let some sign ← next | failBack .unexpectedEnd 0
    match sign with
    | .plain 'P' => readNamed
    | .plain ':' => pure (.group [] [])
    | .plain '#' =>
      let (_, closed) ← takeUntil ')'
      if closed then pure .comment else failAt .unterminatedComment start
    | .plain '=' => pure (.look true false)
    | .plain '!' => pure (.look true true)
    | .plain '<' => readBehind
    | .plain '(' => readCondition
    | .plain '>' => pure .atomic
    | .plain c =>
      if isFlagLetter c || c = '-' then readFlags c start mayBeGlobal
      else failBack (.unknownExtension sign.text) 2
    | _ => failBack (.unknownExtension sign.text) (sign.chars.length + 1)
  else pure (.capture none)

/-- Numbers a new group; a name can be given only once. -/
def openGroup (name : Option (List Char)) : Read Nat := do
  let s ← get
  let number := s.widths.length + 1
  let names ← match name with
    | none => pure s.names
    | some cs =>
      match s.names.lookup (String.ofList cs) with
      | some old => failBack (.redefinedGroup (String.ofList cs) number old) (cs.length + 1)
      | none => pure (s.names ++ [(String.ofList cs, number)])
  set { s with widths := s.widths ++ [none], names := names }
  pure number

def closeGroup (number : Nat) (body : List Node) : Read Unit :=
  modify fun s => { s with widths := s.widths.set (number - 1) (some (width body)) }

def expectClose (start : Nat) : Read Unit := do
  unless ← accept ')' do failAt .unterminatedGroup start

end Conform.Pattern
