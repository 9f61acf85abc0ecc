import Triage.Interpretation
import Triage.Report.Basic
import Triage.Rules

/-!
# Analysing an alert

One alert goes through three stages: it is interpreted, a decision is made, and the report is
written. All that is logged meanwhile carries the same correlation id. That nobody can interpret a
text is an answer like any other.
-/

namespace Triage

/-- The answer to one alert: the report, or the reason why there is none. -/
structure Analysis where
  correlationId : String
  result : Except String Report

namespace Analysis

/-- The events of the options that could not be rendered. -/
def renderFailures (options : List ActionOption) : Journal :=
  (options.filter ActionOption.failed).map fun o => .renderFailure o.tool

/-- Decides about an alert and notes the decision. -/
def decide (alert : Alert) (policy : Option Policy) : Run Decision := do
  match Rules.decide alert policy with
  | .error fault => throw (.expression fault)
  | .ok decision =>
    Run.note (.decision decision.state.word)
    return decision

/-- Writes a report and notes the options that could not be rendered. -/
def report (box : Toolbox) (now : String) (alert : Alert) (decision : Decision)
    (policy : Option Policy) (originalText modelUsed : Option String) : Run Report := do
  let report := Report.make box now alert decision policy originalText modelUsed
  modify fun s => { s with journal := s.journal ++ renderFailures report.options }
  return report

/-- Replaces what is logged along. -/
def setContext (context : Context) : Run Unit := modify fun s => { s with context := context }

/-- The three stages. -/
def stages (backend : Backend) (box : Toolbox) (denied : Option (List String))
    (now id text : String) : Run Analysis := do
  match ← Reading.ofText backend denied text with
  | .nothing reason _ => return ⟨id, .error reason⟩
  | .found i =>
    setContext ⟨id, i.alert.alertType⟩
    let decision ← decide i.alert i.policy
    return ⟨id, .ok (← report box now i.alert decision i.policy (some text) i.model)⟩

/-- Analyses a text. Without a correlation id a fresh one is taken; nothing is logged along once the
analysis has ended, however it ends. -/
def ofText (backend : Backend) (box : Toolbox) (denied : Option (List String)) (now fresh : String)
    (id : Option String) (text : String) : Run Analysis := do
  let id := (id.filter (· ≠ "")).getD fresh
  setContext ⟨id, (← get).context.alertType⟩
  try
    stages backend box denied now id text
  finally
    setContext .empty

end Analysis

end Triage
