import Triage.Regex.Reading
import Triage.Regex.Escape
import Triage.Decimal.Numeral

/-!
# Groups

What a parenthesis opens is told by the letters behind it: a group that captures or only holds parts
together, a look ahead or behind, a condition on another group, flags, or a comment.
-/

namespace Triage.Regex

open Text Reading

/-- The flags set and unset by a group. -/
inductive FlagChange where
  | whole (add : List Flag)
  | inside (add remove : List Flag)

/-- Reads the letters of flags that are taken away, up to the colon. -/
def removedFlags : Nat → List Flag → Token → Reading (List Flag)
  | 0, _, _ => refuse
  | fuel + 1, done, token => do
    match token with
    | .char c =>
      match Flag.ofChar? c with
      | some flag =>
        if flag.isRepertoire then refuse
        match ← take with
        | none => refuse
        | some (.char ':') => return flag :: done
        | some token => removedFlags fuel (flag :: done) token
      | none => refuse
    | _ => refuse

/-- Finishes the flags of a group after a minus sign. -/
def minusFlags (add : List Flag) : Reading FlagChange := do
  if add.contains .template then refuse
  match ← take with
  | none => refuse
  | some token =>
    let remove ← removedFlags (← bound) [] token
    if remove.contains .template || add.any remove.contains then refuse
    return .inside add remove

/-- Reads the letters of flags that are added, up to what ends them. -/
def addedFlags : Nat → List Flag → Char → Reading FlagChange
  | 0, _, _ => refuse
  | fuel + 1, done, c => do
    match Flag.ofChar? c with
    | none => refuse
    | some flag =>
      if flag = .locale then refuse
      if flag.isRepertoire ∧ done.any (fun f => f.isRepertoire && f != flag) then refuse
      let done := flag :: done
      match ← take with
      | some (.char ')') => return .whole done
      | some (.char ':') =>
        if done.contains .template then refuse
        return .inside done []
      | some (.char '-') => minusFlags done
      | some (.char c) => addedFlags fuel done c
      | _ => refuse

/-- Opens a group and gives its number. -/
def openGroup (name : Option String) : Reading Nat := do
  let scan ← get
  let index := scan.widths.length
  match name with
  | some name =>
    if (scan.names.lookup name).isSome then refuse
    set { scan with widths := scan.widths ++ [none], names := (name, index) :: scan.names }
  | none => set { scan with widths := scan.widths ++ [none] }
  return index

/-- The widths of complete groups. -/
def groupWidth (scan : Scan) (index : Nat) : Nat × Nat := (scan.widths[index]?.join).getD (0, 0)

/-- Closes a group. -/
def closeGroup (index : Nat) (body : Node) : Reading Unit := modify fun scan =>
  { scan with widths := scan.widths.set index (some (body.width (groupWidth scan))) }

/-- The greatest width of a look behind. -/
def behindLimit : Nat := 4294967295

/-- A look behind of a body, which must have one width. -/
def behindNode (negated : Bool) (body : Node) : Reading Node := do
  let scan ← get
  let (least, most) := body.width (groupWidth scan)
  if least ≠ most ∨ behindLimit < least then set { scan with loose := true }
  return .behind negated least body

/-- Reads the group that a condition asks for. -/
def conditionGroup : Reading Nat := do
  let name ← takeUntil ')' (← bound) []
  let index ←
    if isName name then
      match (← get).names.lookup (String.ofList name) with
      | some index => pure index
      | none => refuse
    else
      match Numeral.integer? name with
      | some (.ofNat (index + 1)) =>
        modify fun scan => { scan with conditions := (index + 1) :: scan.conditions }
        pure (index + 1)
      | _ => refuse
  if (← get).lookBehind.isSome then checkGroup index
  return index

/-- Reads the name of a group up to the given character. -/
def groupName (close : Char) : Reading String := do
  let name ← takeUntil close (← bound) []
  unless isName name do refuse
  return String.ofList name

/-- What an opening parenthesis starts. -/
inductive Opening where
  | comment
  | backref (index : Nat)
  | capture (name : Option String)
  | plain
  | atomic
  | ahead (negated : Bool)
  | behind (negated : Bool)
  | conditional
  | flags (change : FlagChange)

/-- Passes over a comment. -/
def skipComment : Nat → Reading Unit
  | 0 => refuse
  | fuel + 1 => do
    match ← take with
    | none => refuse
    | some (.char ')') => pure ()
    | some _ => skipComment fuel

/-- Reads what follows an opening parenthesis and says what it starts. -/
def opening : Reading Opening := do
  unless ← accept '?' do return .capture none
  match ← take with
  | some (.char 'P') =>
    match ← take with
    | some (.char '<') => return .capture (some (← groupName '>'))
    | some (.char '=') =>
      match (← get).names.lookup (← groupName ')') with
      | some index =>
        checkGroup index
        return .backref index
      | none => refuse
    | _ => refuse
  | some (.char ':') => return .plain
  | some (.char '#') =>
    skipComment (← bound)
    return .comment
  | some (.char '=') => return .ahead false
  | some (.char '!') => return .ahead true
  | some (.char '<') =>
    match ← take with
    | some (.char '=') => return .behind false
    | some (.char '!') => return .behind true
    | _ => refuse
  | some (.char '(') => return .conditional
  | some (.char '>') => return .atomic
  | some (.char '-') => return .flags (← minusFlags [])
  | some (.char c) => return .flags (← addedFlags (← bound) [] c)
  | _ => refuse

/-- Sets flags of the whole expression. -/
def setFlags (add : List Flag) : Reading Flags := do
  let scan ← get
  let flags := scan.flags.combine add []
  set { scan with flags := flags, global := add ++ scan.global }
  return flags

end Triage.Regex
