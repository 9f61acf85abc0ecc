import Triage.Regex.Basic
import Triage.Regex.Token
import Triage.Text.CharClass

/-!
# Reading letters

A written expression is read letter by letter in one pass. What has been met so far (flags, groups,
names) is kept along, because later letters refer to it.

A written form may be malformed, which is one answer whatever the mistake. Two mistakes are told
apart from it because they concern numbers: a repetition count that is too large, and one with more
digits than are ever read. A third is a contradiction between flags.
-/

namespace Triage.Regex

/-- Why an expression cannot be read. -/
inductive Fault where
  | malformed
  | countTooLarge
  | countTooLong (digits : Nat)
  | flagConflict
  deriving DecidableEq, Repr

/-- The flags in force at a place of an expression. -/
structure Flags where
  ignoreCase : Bool
  multiline : Bool
  dotAll : Bool
  verbose : Bool
  ascii : Bool
  deriving DecidableEq, Repr

/-- No flag is set. -/
def Flags.none : Flags := ⟨false, false, false, false, false⟩

/-- The case rule of the flags. -/
def Flags.rule (flags : Flags) : CaseRule :=
  if flags.ignoreCase then (if flags.ascii then .ignoreAscii else .ignore) else .exact

/-- A flag by its letter. -/
inductive Flag where
  | ignoreCase
  | multiline
  | dotAll
  | verbose
  | ascii
  | unicode
  | locale
  | template
  deriving DecidableEq, Repr

/-- The flag of a letter. -/
def Flag.ofChar? : Char → Option Flag
  | 'i' => some .ignoreCase
  | 'm' => some .multiline
  | 's' => some .dotAll
  | 'x' => some .verbose
  | 'a' => some .ascii
  | 'u' => some .unicode
  | 'L' => some .locale
  | 't' => some .template
  | _ => none

/-- The flag says which characters the named classes hold. -/
def Flag.isRepertoire : Flag → Bool
  | .ascii | .unicode | .locale => true
  | _ => false

/-- The flags after some are added and then some taken away. -/
def Flags.combine (flags : Flags) (add remove : List Flag) : Flags where
  ignoreCase := (flags.ignoreCase || add.contains .ignoreCase) && !remove.contains .ignoreCase
  multiline := (flags.multiline || add.contains .multiline) && !remove.contains .multiline
  dotAll := (flags.dotAll || add.contains .dotAll) && !remove.contains .dotAll
  verbose := (flags.verbose || add.contains .verbose) && !remove.contains .verbose
  ascii := add.contains .ascii || (flags.ascii && !add.any Flag.isRepertoire)

/-- What a reader keeps: the letters to come and what the letters so far have settled. -/
structure Scan where
  /-- The letters to come. -/
  rest : List Token
  /-- The flags of the whole expression. -/
  flags : Flags
  /-- Flags of the whole expression that were set by name. -/
  global : List Flag
  /-- The widths of the groups opened so far, absent while a group is open; group zero stays so. -/
  widths : List (Option (Nat × Nat))
  /-- The named groups, latest first. -/
  names : List (String × Nat)
  /-- Inside a look behind, the number of groups opened before it. -/
  lookBehind : Option Nat
  /-- The groups that conditions ask for. -/
  conditions : List Nat
  /-- A repetition has been read. -/
  repeats : Bool
  /-- A look behind of no fixed width has been read. -/
  loose : Bool

/-- A step of reading. -/
abbrev Reading := StateT Scan (Except Fault)

namespace Reading

/-- Gives up on a malformed expression. -/
def refuse {α : Type} : Reading α := throw .malformed

/-- The letter to come; none at the end. A backslash that escapes nothing is refused on sight. -/
def peek : Reading (Option Token) := do
  match (← get).rest with
  | [] => return none
  | .dangling :: _ => refuse
  | token :: _ => return some token

/-- Passes over a letter. -/
def skip : Reading Unit := modify fun scan => { scan with rest := scan.rest.tail }

/-- Takes the letter to come. -/
def take : Reading (Option Token) := do
  let token ← peek
  skip
  return token

/-- Takes the letter to come if it is the given character. -/
def accept (c : Char) : Reading Bool := do
  if (← peek) = some (.char c) then
    skip
    let _ ← peek
    return true
  return false

/-- Takes the letter to come, which must be the given character. -/
def expect (c : Char) : Reading Unit := do
  unless ← accept c do refuse

/-- Takes at most `n` plain characters on which `p` holds. -/
def takeChars (p : Char → Bool) : Nat → Reading (List Char)
  | 0 => return []
  | n + 1 => do
    match ← peek with
    | some (.char c) =>
      if p c then
        skip
        return c :: (← takeChars p n)
      return []
    | _ => return []

/-- Takes the letters up to the given character, which is passed over; there must be some. -/
def takeUntil (c : Char) : Nat → List Char → Reading (List Char)
  | 0, _ => refuse
  | n + 1, done => do
    match ← take with
    | none => refuse
    | some token =>
      if token = .char c then
        if done = [] then refuse
        return done
      takeUntil c n (done ++ token.text)

/-- As many steps as there are letters to come, and one. -/
def bound : Reading Nat := return (← get).rest.length + 1

/-- The number of groups opened so far, the whole expression included. -/
def groups : Reading Nat := return (← get).widths.length

end Reading

end Triage.Regex
