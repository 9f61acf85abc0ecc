import Triage.Schema.Field

/-!
# Decisions

What is recommended for an alert: to replace the resource without asking, to ask for approval, or to
do nothing; which rule said so; and why.
-/

namespace Triage

/-- The recommended handling. -/
inductive DecisionState where
  | autoReplace
  | needsApproval
  | noAction
  deriving DecidableEq, Repr

namespace DecisionState

/-- The word for a state in documents. -/
def word : DecisionState → String
  | autoReplace => "AUTO_REPLACE"
  | needsApproval => "NEEDS_APPROVAL"
  | noAction => "NO_ACTION"

/-- All states. -/
def all : List DecisionState := [autoReplace, needsApproval, noAction]

/-- The state of a word. -/
def ofWord? (s : String) : Option DecisionState := all.find? fun state => state.word = s

/-- Checks the word for a state. -/
def check : Json → Checked DecisionState
  | .string s =>
    match ofWord? s with
    | some state => .valid state
    | none => .fault .notMember
  | _ => .fault .notMember

end DecisionState

/-- A recommendation with the index of the rule that fired, if any did. -/
structure Decision where
  state : DecisionState
  ruleIndex : Option Int
  justification : String
  deriving DecidableEq, Repr

namespace Decision

/-- Someone has to agree first. -/
def requiresApproval (d : Decision) : Bool := d.state = .needsApproval

/-- The fields of a decision as a document has them. -/
def fields (d : Decision) : Record := [
  ("decision_state", .string d.state.word),
  ("rule_index", match d.ruleIndex with | some n => .int n | none => .null),
  ("justification", .string d.justification)]

/-- Checks the fields of a decision. -/
def check : Json → Checked Decision := Schema.object fun r =>
  Decision.mk <$> Schema.required r "decision_state" DecisionState.check
    <*> Schema.withDefault r "rule_index" none (Schema.optional Schema.whole)
    <*> Schema.required r "justification" Schema.text

end Decision

end Triage
