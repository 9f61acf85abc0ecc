import Triage.Regex.Escape

/-!
# Sets of characters

A set lists characters, ranges and classes between brackets, or all but these.
-/

namespace Triage.Regex

open Reading

/-- One member of a set, or the lower end of a range. -/
def setItem (flags : Flags) (token : Token) : Reading SetItem :=
  match token with
  | .escape c => setEscape flags c
  | .char c => return .char c.toNat
  | .dangling => refuse

/-- Reads the members of a set up to its closing bracket, which may come first as a member. -/
def setItems (flags : Flags) : Nat → List SetItem → Reading (List SetItem)
  | 0, _ => refuse
  | fuel + 1, done => do
    match ← take with
    | none => refuse
    | some token =>
      if token = .char ']' ∧ done ≠ [] then return done
      let item ← setItem flags token
      if ← accept '-' then
        match ← take with
        | none => refuse
        | some (.char ']') => return done ++ [item, .char 45]
        | some token =>
          match item, ← setItem flags token with
          | .char low, .char high =>
            if high < low then refuse
            setItems flags fuel (done ++ [.range low high])
          | _, _ => refuse
      else setItems flags fuel (done ++ [item])

/-- A set of one character is a test for that character. -/
def setNode (rule : CaseRule) (negated : Bool) (items : List SetItem) : Node :=
  match items.eraseDups with
  | [.char n] => .one (.char rule negated n)
  | items => .one (.set rule negated items)

/-- Reads a set after its opening bracket. -/
def readSet (flags : Flags) : Reading Node := do
  let negated ← accept '^'
  return setNode flags.rule negated (← setItems flags (← bound) [])

end Triage.Regex
