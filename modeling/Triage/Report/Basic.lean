import Triage.Report.Summary

/-!
# Reports

A report gathers what is known about one alert: the alert, the decision, the options, the summary
and where all of it came from.
-/

namespace Triage

/-- Where the content of a report came from. -/
structure Provenance where
  parseMethod : ParseMethod
  alertType : String
  policyAlertType : Option String
  modelUsed : Option String
  originalText : Option String
  generatedAt : String

/-- The answer to one alert. -/
structure Report where
  alert : Alert
  decision : Decision
  action : Option String
  options : List ActionOption
  summary : String
  provenance : Provenance

namespace Provenance

/-- The fields of a provenance as a document has them. -/
def fields (p : Provenance) : Record := [
  ("parse_method", .string p.parseMethod.word),
  ("alert_type", .string p.alertType),
  ("policy_alert_type", textOrNull p.policyAlertType),
  ("model_used", textOrNull p.modelUsed),
  ("original_text", textOrNull p.originalText),
  ("generated_at", .string p.generatedAt)]

end Provenance

namespace Report

/-- The options of a policy for the fields of an alert, in order. -/
def optionsFor (box : Toolbox) (policy : Option Policy) (fields : Record) : List ActionOption :=
  match policy with
  | some policy => policy.actionTemplates.map (ActionOption.ofTemplate box fields)
  | none => []

/-- The report on an alert; `now` is the time of its making. -/
def make (box : Toolbox) (now : String) (alert : Alert) (decision : Decision)
    (policy : Option Policy) (originalText modelUsed : Option String) : Report :=
  let fields := alert.fields
  let options := optionsFor box policy fields
  { alert := alert
    decision := decision
    action := options.head?.map ActionOption.action
    options := options
    summary := Summary.render (policy.bind Policy.summaryTemplate) options fields
    provenance :=
      ⟨alert.parseMethod, alert.alertType, policy.map Policy.alertType, modelUsed, originalText,
        now⟩ }

/-- The options that may be approved. -/
def approvable (r : Report) : List ActionOption := r.options.filter fun o => !o.failed

/-- The fields of a report as a document has them. -/
def fields (r : Report) : Record := [
  ("parsed", .object r.alert.fields),
  ("decision", .object r.decision.fields),
  ("action", textOrNull r.action),
  ("action_options", .array (r.options.map fun o => .object o.fields)),
  ("summary", .string r.summary),
  ("provenance", .object r.provenance.fields)]

end Report

end Triage
