import Triage.Policy.Basic
import Triage.Json.Printer

/-!
# Prompts

What a model is told: the catalogue of the alert types there are, rules that keep similar requests
apart, the text, and the shape of the answer.
-/

namespace Triage.Prompt

/-- What a model is. -/
def system : String :=
  "You are a JSON parser. Always return valid JSON only, no markdown formatting, no code blocks."

/-- The rules that hold whatever the policies are. -/
def generalRules : List String := [
  "Choose disk_utilization_low ONLY when the text is about disk, storage or filesystem usage. " ++
    "Never choose a memory or RAM alert type for disk/storage text.",
  "Choose a memory upgrade alert type ONLY when the text explicitly mentions memory or RAM " ++
    "(for example 'add memory', 'increase RAM', 'out of memory').",
  "A generic question (\"how do I scale?\", \"what is a MIG?\") is NOT a remediation request. " ++
    "Only choose a scaling or upgrade alert type when the text asks for the change to be made " ++
    "(\"please scale up api\", \"add memory to matchmaker\").",
  "If no alert type fits, return \x7b\"alert_type\": null\x7d and nothing else. Do not guess.",
  "Never invent values. Use null for any field not present in the text and list it in " ++
    "missing_fields."]

/-- The shape of the answer. -/
def shape : Json :=
  let text := Json.string "string or null"
  .object [
    ("alert_type", .string "string (one of the listed alert types) or null"),
    ("project_id", text),
    ("instance_name", text),
    ("metric_labels", .object []),
    ("threshold_percent", .string "number or null"),
    ("value_percent", .string "number or null"),
    ("policy_name", text),
    ("condition_name", text),
    ("violation_started_raw", text),
    ("gcp_alert_url", text),
    ("service_name", text),
    ("environment", text),
    ("current_machine_type", text),
    ("target_machine_type", text),
    ("confidence", .float (Binary64.ofDecimal false 7 (-1))),
    ("missing_fields", .array [.string "array of missing field names"]),
    ("parse_method", .string "llm")]

/-- What a model is told about a policy. -/
def entry (p : Policy) : Json := .object [
  ("alert_type", .string p.alertType),
  ("name", textOrNull p.name),
  ("description", textOrNull p.description),
  ("sample_texts", .array (p.sampleTexts.map .string))]

/-- The catalogue of alert types. -/
def catalogue (policies : List Policy) : Json := .array (policies.map entry)

/-- The hints of a policy as rules. -/
def hints (p : Policy) : List String := p.promptHints.map fun hint => s!"[{p.alertType}] {hint}"

/-- All rules in order. -/
def rules (policies : List Policy) : List String := generalRules ++ policies.flatMap hints

/-- Rules with their numbers; the first has the number `n`. -/
def numbered : Nat → List String → List String
  | _, [] => []
  | n, rule :: rest => s!"{Text.ofNat n}. {rule}" :: numbered (n + 1) rest

/-- What a model is asked about a text. -/
def user (text : String) (policies : List Policy) : String :=
  Text.join "\n" [
    "You are an alert parser. Parse the following alert text and extract structured information.",
    "",
    "Available alert types and examples:",
    (catalogue policies).write .ascii,
    "",
    "Disambiguation rules:",
    Text.join "\n" (numbered 1 (rules policies)),
    "",
    "Alert text to parse:",
    text,
    "",
    "Return a JSON object with the following structure (alert_type is one of: " ++
      Text.join ", " (policies.map Policy.alertType) ++ "):",
    shape.write .ascii,
    "",
    "Only return valid JSON, no other text."]

/-- A message to a model. -/
def message (role content : String) : Json :=
  .object [("role", .string role), ("content", .string content)]

/-- The messages that ask about a text. -/
def messages (text : String) (policies : List Policy) : Json :=
  .array [message "system" system, message "user" (user text policies)]

end Triage.Prompt
