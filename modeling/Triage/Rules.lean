import Triage.Predicate
import Triage.Alert

/-!
# Deciding

The first rule of a policy whose condition holds gives the decision; where none holds, the policy's
default gives it; and without a default, or without a policy, nothing is done.
-/

namespace Triage

namespace Rules

/-- The first rule that holds, with its index; the first rule tried has the index `i`. -/
def firstHolding (fields : Record) : Nat → List DecisionRule →
    Except Regex.Fault (Option (Nat × DecisionRule))
  | _, [] => .ok none
  | i, rule :: rest => do
    if ← conditionHolds rule.condition fields then return some (i, rule)
    else firstHolding fields (i + 1) rest

/-- The decision that a policy's rules give for the fields of an alert. -/
def evaluate (policy : Policy) (fields : Record) : Except Regex.Fault Decision := do
  match ← firstHolding fields 0 policy.decisionRules with
  | some (i, rule) =>
    return ⟨rule.decision, some i, s!"Rule {Text.ofNat i} of policy {policy.alertType} matched"⟩
  | none =>
    match policy.defaultDecision with
    | some state =>
      return ⟨state, none, s!"No rule matched; default decision of policy {policy.alertType}"⟩
    | none =>
      return ⟨.noAction, none,
        s!"No rule matched and policy {policy.alertType} has no default decision"⟩

/-- The decision for an alert. -/
def decide (alert : Alert) (policy : Option Policy) : Except Regex.Fault Decision :=
  match policy with
  | some policy => evaluate policy alert.fields
  | none => .ok ⟨.noAction, none, "No policy attached to this alert"⟩

end Rules

end Triage
