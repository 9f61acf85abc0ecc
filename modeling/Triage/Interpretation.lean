import Triage.Cascade
import Triage.Recognition
import Triage.Completion

/-!
# Interpreting a text

The policies come first: what they recognise is returned without asking anybody, unless something
critical is missing; then a model is asked to complete it. Where no policy recognises the text, a
model is asked to interpret it. An alert type that is disabled is never returned, whoever came up
with it.
-/

namespace Triage

/-- An interpreted text: the alert, the policy for it if there is one, and the model that was
needed if one was. -/
structure Interpretation where
  alert : Alert
  policy : Option Policy
  model : Option String

/-- What came of a text: an interpretation, or the reason why there is none, with the model that
gave the reason if one did. -/
inductive Reading where
  | found (interpretation : Interpretation)
  | nothing (reason : String) (model : Option String)

namespace Reading

/-- What is said when an alert type is disabled. -/
def disabled (alertType : String) : String := s!"Alert type '{alertType}' is disabled"

/-- What the policies say when they recognise nothing. -/
def unrecognised : String := "No policy pattern matched"

/-- What the policies say when something critical is missing. -/
def incomplete (policy : Policy) (missing : List String) : String :=
  let names := Text.join ", " missing
  s!"Policy '{policy.alertType}' matched but critical fields are missing: {names}"

/-- What is said when neither the policies nor the models can interpret the text. -/
def uninterpreted (policies models : String) : String :=
  let models := if models = "" then "no match" else models
  s!"Could not parse alert with policy or LLM. Policy: {policies}. LLM: {models}"

/-- What the policies alone make of a text. -/
inductive ByPolicy where
  /-- The text is settled. -/
  | settled (reading : Reading) (event : Event)
  /-- A model is needed; the policy that recognised the text is to be completed. -/
  | open (policy : Option Policy) (reason : String)

/-- What the policies alone make of a recognised text. -/
def byPolicy (denied : List String) : Option Recognition → ByPolicy
  | none => .open none unrecognised
  | some r =>
    if r.alert.alertType ∈ denied then
      .settled (.nothing (disabled r.alert.alertType) none) (.parse "policy" "denylisted")
    else
      match r.policy.missingCritical r.alert.fields with
      | [] => .settled (.found ⟨r.alert, some r.policy, none⟩) (.parse "policy" "matched")
      | missing => .open (some r.policy) (incomplete r.policy missing)

/-- What a verdict of the models adds to what the policies made of a text. -/
def byModel (denied : List String) (recognised : Option Policy) (reason : String) :
    Verdict → Except Failure (Reading × Event)
  | .alert alert policy model =>
    if alert.alertType ∈ denied then
      .ok (.nothing (disabled alert.alertType) none, .parse "llm" "denylisted")
    else
      match recognised with
      | some recognised => do
        let alert ← Completion.merge recognised alert
        return (.found ⟨alert, some recognised, some model⟩, .parse "llm" "completed")
      | none => .ok (.found ⟨alert, policy, some model⟩, .parse "llm" "matched")
  | .none model said => .ok (.nothing (uninterpreted reason said) (some model),
      .parse "none" "negative")
  | .failed said => .ok (.nothing (uninterpreted reason said) none, .parse "none" "unmatched")

/-- The disabled alert types: those given, else those of the configuration in force. -/
def denylist : Option (List String) → Run (List String)
  | some denied => return denied
  | none => return (← Run.config).denylist

/-- Interprets a text. -/
def ofText (backend : Backend) (denied : Option (List String)) (text : String) : Run Reading := do
  let denied ← denylist denied
  let policies ← Store.load
  match byPolicy denied (← Recognition.ofText text policies) with
  | .settled reading event =>
    Run.note event
    return reading
  | .open recognised reason =>
    let consultation ← Cascade.consult backend text
    let (reading, event) ← byModel denied recognised reason consultation.verdict
    Run.note event
    return reading

end Reading

end Triage
