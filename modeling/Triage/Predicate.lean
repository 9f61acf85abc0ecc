import Triage.Json.Printer
import Triage.Regex.Matcher
import Triage.Regex.Reader

/-!
# Predicates

The condition of a rule maps fields to predicates, written as values of the document. The forms
are a closed set; whatever else stands there is unrecognised and never holds. A field's value is
compared by its text. A malformed expression never holds either; one whose repetition counts or
flags cannot be dealt with is a fault.
-/

namespace Triage

/-- A test of a field. -/
inductive Predicate where
  | equals (expected : Json)
  | isNull (expected : Bool)
  | startsWith (start : String)
  | contains (fragment : String)
  | searches (expression : String)
  | unrecognized (spec : Json)

namespace Predicate

/-- A value compared by its text: no null and no container. -/
def isScalar : Json → Bool
  | .string _ | .int _ | .float _ | .bool _ => true
  | _ => false

/-- The predicate of an operator and its operand. -/
def ofOperator? (operator : String) (operand : Json) : Option Predicate :=
  match operator, operand with
  | "equals", .null => some (isNull true)
  | "equals", v => if isScalar v then some (equals v) else none
  | "is_null", .bool b => some (isNull b)
  | "starts_with", .string s => some (startsWith s)
  | "contains", .string s => some (contains s)
  | "matches", .string s => some (searches s)
  | _, _ => none

/-- The predicate that a value of a document writes. -/
def ofSpec (spec : Json) : Predicate :=
  match spec with
  | .null => isNull true
  | .object [(operator, operand)] => (ofOperator? operator operand).getD (unrecognized spec)
  | v => if isScalar v then equals v else unrecognized v

/-- An expression is found in a text. -/
def found (expression text : String) : Except Regex.Fault Bool :=
  match Regex.compile false expression with
  | .ok pattern => .ok (pattern.search? text).isSome
  | .error .malformed => .ok false
  | .error fault => .error fault

/-- The predicate holds of a field's value; an absent field is null. -/
def holds (p : Predicate) (value : Json) : Except Regex.Fault Bool :=
  match p with
  | equals expected => .ok (!value.isNull && value.chatText == expected.chatText)
  | isNull expected => .ok (value.isNull == expected)
  | startsWith start => .ok (!value.isNull && Text.startsWith value.chatText start)
  | contains fragment => .ok (!value.isNull && Text.contains value.chatText fragment)
  | searches expression => if value.isNull then .ok false else found expression value.chatText
  | unrecognized _ => .ok false

end Predicate

/-- Every field of the condition satisfies its predicate; they are tried in order until one
fails. -/
def conditionHolds : Record → Record → Except Regex.Fault Bool
  | [], _ => .ok true
  | (name, spec) :: rest, fields => do
    if ← (Predicate.ofSpec spec).holds (fields.getD name) then conditionHolds rest fields
    else return false

end Triage
