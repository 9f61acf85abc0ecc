import Triage.Failure

/-!
# Completing an alert

A model may complete the alert of a policy that was recognised but left something critical open.
What the model supplies is laid on the policy's defaults, null counting as nothing. The alert type
stays that of the policy.
-/

namespace Triage.Completion

/-- The fields that are not null. -/
def supplied (fields : Record) : Record := fields.filter fun field => !field.2.isNull

/-- The record of a completed alert. -/
def record (policy : Policy) (alert : Alert) : Record :=
  let r := policy.extractionDefaults.overlay (supplied alert.fields)
  let r := (r.setDefault "project_id" .null).setDefault "instance_name" .null
  (r.set "alert_type" (.string policy.alertType)).set "parse_method"
    (.string ParseMethod.model.word)

/-- The completed alert. -/
def merge (policy : Policy) (alert : Alert) : Except Failure Alert :=
  (Alert.check (.object (record policy alert))).orFail (.invalidCompletion policy.alertType)

end Triage.Completion
