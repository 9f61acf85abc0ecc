import Triage.Schema.Field
import Triage.Policy.Basic

/-!
# Alerts

An alert once it has been interpreted. Seven fields are always given, of which two may be null; two
measurements and the texts of `Detail` are optional; and whatever else a source supplies is kept.
-/

namespace Triage

open Schema

/-- How an alert was interpreted. -/
inductive ParseMethod where
  | policy
  | model
  deriving DecidableEq, Repr

namespace ParseMethod

/-- The word for a method in documents. -/
def word : ParseMethod → String
  | policy => "policy"
  | model => "llm"

/-- Checks the word for a method. -/
def check : Json → Checked ParseMethod
  | .string s =>
    if s = word policy then .valid policy
    else if s = word model then .valid model
    else .fault .notLiteral
  | _ => .fault .notLiteral

end ParseMethod

/-- The optional texts of an alert. -/
inductive Detail where
  | policyName
  | conditionName
  | violationStarted
  | alertUrl
  | userIntent
  | serviceName
  | scheduleName
  | scheduleExpression
  | duration
  | minReplicas
  | environment
  | currentMachineType
  | targetMachineType
  deriving DecidableEq, Repr

namespace Detail

/-- All details in order. -/
def all : List Detail := [
  policyName, conditionName, violationStarted, alertUrl, userIntent, serviceName, scheduleName,
  scheduleExpression, duration, minReplicas, environment, currentMachineType, targetMachineType]

/-- The name of a detail in documents. -/
def name : Detail → String
  | policyName => "policy_name"
  | conditionName => "condition_name"
  | violationStarted => "violation_started_raw"
  | alertUrl => "gcp_alert_url"
  | userIntent => "user_intent"
  | serviceName => "service_name"
  | scheduleName => "schedule_name"
  | scheduleExpression => "schedule_expression"
  | duration => "duration_sec"
  | minReplicas => "min_replicas"
  | environment => "environment"
  | currentMachineType => "current_machine_type"
  | targetMachineType => "target_machine_type"

end Detail

/-- An interpreted alert. -/
structure Alert where
  alertType : String
  projectId : Option String
  instanceName : Option String
  metricLabels : List (String × String)
  confidence : Binary64
  missingFields : List String
  parseMethod : ParseMethod
  thresholdPercent : Option Binary64
  valuePercent : Option Binary64
  detail : Detail → Option String
  extras : Record

namespace Alert

/-- The names of the fields every alert has, and of the measurements. -/
def mainNames : List String := [
  "alert_type", "project_id", "instance_name", "metric_labels", "confidence", "missing_fields",
  "parse_method", "threshold_percent", "value_percent"]

/-- The names of all fields but the extra ones. -/
def declaredNames : List String := mainNames ++ Detail.all.map Detail.name

/-- The fields that are none of the declared ones. -/
def extrasOf (r : Record) : Record := r.filter fun field => field.1 ∉ declaredNames

/-- Checks details in order. -/
def checkDetails (r : Record) : List Detail → Checked (Detail → Option String)
  | [] => .valid fun _ => none
  | d :: rest =>
    (fun value more e => if e = d then value else more e)
      <$> withDefault r d.name none (optional text) <*> checkDetails r rest

/-- Checks the fields of an alert. -/
def checkFields (r : Record) : Checked Alert :=
  (fun (alertType : { s : String // s ≠ "" }) => Alert.mk alertType.val)
    <$> required r "alert_type" nonEmptyText
    <*> required r "project_id" (optional text)
    <*> required r "instance_name" (optional text)
    <*> required r "metric_labels" (mapOf text)
    <*> required r "confidence" (numberBetween .zero .one)
    <*> required r "missing_fields" (listOf text)
    <*> required r "parse_method" ParseMethod.check
    <*> withDefault r "threshold_percent" none (optional number)
    <*> withDefault r "value_percent" none (optional number)
    <*> checkDetails r Detail.all
    <*> .valid (extrasOf r)

/-- Checks an alert. -/
def check : Json → Checked Alert := object checkFields

/-- A number or null. -/
def numberOrNull : Option Binary64 → Json
  | some x => .float x
  | none => .null

/-- All fields of an alert, the declared ones first. -/
def fields (a : Alert) : Record :=
  [("alert_type", .string a.alertType),
    ("project_id", textOrNull a.projectId),
    ("instance_name", textOrNull a.instanceName),
    ("metric_labels", .object (a.metricLabels.map fun l => (l.1, .string l.2))),
    ("confidence", .float a.confidence),
    ("missing_fields", .array (a.missingFields.map .string)),
    ("parse_method", .string a.parseMethod.word),
    ("threshold_percent", numberOrNull a.thresholdPercent),
    ("value_percent", numberOrNull a.valuePercent)] ++
  Detail.all.map (fun d => (d.name, textOrNull (a.detail d))) ++ a.extras

end Alert

end Triage
