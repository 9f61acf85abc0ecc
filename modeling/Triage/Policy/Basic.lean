import Triage.Policy.PatternSpec
import Triage.Decision

/-!
# Policies

A policy is the recipe for one class of alerts: the patterns that recognise them, the values that
fill what a pattern leaves open, the rules that decide, and the templates of the actions to propose.
A policy without patterns is never recognised in a text; it still takes part in the catalogue of
alert types.
-/

namespace Triage

open Schema

/-- Keywords that gate a policy. -/
structure Guard where
  /-- One of these must occur, if there are any. -/
  requireAny : List String
  /-- None of these may occur. -/
  excludeAny : List String
  deriving DecidableEq, Repr

namespace Guard

/-- Checks the fields of a guard. -/
def check : Json → Checked Guard := object fun r =>
  Guard.mk <$> withDefault r "require_any" [] (listOf text)
    <*> withDefault r "exclude_any" [] (listOf text)

/-- The fields of a guard as a document has them. -/
def fields (g : Guard) : Record := [
  ("require_any", .array (g.requireAny.map .string)),
  ("exclude_any", .array (g.excludeAny.map .string))]

end Guard

/-- A text or null. -/
def textOrNull : Option String → Json
  | some s => .string s
  | none => .null

/-- The recipe for one action. -/
structure ActionTemplate where
  label : String
  description : Option String
  template : String
  parameters : Record

namespace ActionTemplate

/-- A template that starts with this names a tool. -/
def toolMark : String := "MCP:"

/-- The tool that renders the action, where the template names one. -/
def tool? (t : ActionTemplate) : Option String :=
  if Text.startsWith t.template toolMark then
    some (Text.trim (Text.dropFirst toolMark.length t.template))
  else none

/-- Checks the fields of a template. -/
def check : Json → Checked ActionTemplate := object fun r =>
  ActionTemplate.mk <$> withDefault r "label" "Default" text
    <*> withDefault r "description" none (optional text)
    <*> required r "template" text
    <*> withDefault r "parameters" [] anyMap

/-- The fields of a template as a document has them. -/
def fields (t : ActionTemplate) : Record := [
  ("label", .string t.label),
  ("description", textOrNull t.description),
  ("template", .string t.template),
  ("parameters", .object t.parameters)]

end ActionTemplate

/-- A rule: where all its conditions hold, its state is the decision. -/
structure DecisionRule where
  condition : Record
  decision : DecisionState

namespace DecisionRule

/-- Checks the fields of a rule. -/
def check : Json → Checked DecisionRule := object fun r =>
  DecisionRule.mk <$> withDefault r "condition" [] anyMap
    <*> required r "decision" DecisionState.check

/-- The fields of a rule as a document has them. -/
def fields (rule : DecisionRule) : Record := [
  ("condition", .object rule.condition),
  ("decision", .string rule.decision.word)]

end DecisionRule

/-- The recipe for one class of alerts. -/
structure Policy where
  alertType : String
  name : Option String
  description : Option String
  patterns : List PatternSpec
  extractionDefaults : Record
  actionTemplates : List ActionTemplate
  summaryTemplate : Option String
  decisionRules : List DecisionRule
  defaultDecision : Option DecisionState
  sampleTexts : List String
  criticalFields : List String
  guard : Option Guard
  promptHints : List String
  alertType_ne : alertType ≠ ""

namespace Policy

/-- A policy from its parts, in the order in which they are checked. -/
def ofParts (alertType : { s : String // s ≠ "" }) (name description : Option String)
    (patterns : List PatternSpec) (extractionDefaults : Record)
    (actionTemplates : List ActionTemplate) (summaryTemplate : Option String)
    (decisionRules : List DecisionRule) (defaultDecision : Option DecisionState)
    (sampleTexts criticalFields : List String) (guard : Option Guard)
    (promptHints : List String) : Policy where
  alertType := alertType.val
  name := name
  description := description
  patterns := patterns
  extractionDefaults := extractionDefaults
  actionTemplates := actionTemplates
  summaryTemplate := summaryTemplate
  decisionRules := decisionRules
  defaultDecision := defaultDecision
  sampleTexts := sampleTexts
  criticalFields := criticalFields
  guard := guard
  promptHints := promptHints
  alertType_ne := alertType.property

/-- A single action template given as a text becomes a list of one, unless there is a list. -/
def upgrade (r : Record) : Record :=
  if !(r.getD "action_template").isNothing && (r.getD "action_templates").isNothing then
    let template : Json :=
      .object [("label", .string "Default"), ("template", r.getD "action_template")]
    (r.erase "action_template").set "action_templates" (.array [template])
  else r

/-- The name under which the extraction defaults are given: the older one only where the newer one
is absent. -/
def defaultsName (r : Record) : String :=
  if !r.has "extraction_defaults" && r.has "extraction_rules" then "extraction_rules"
  else "extraction_defaults"

/-- Checks the fields of a policy; others are ignored. -/
def checkFields (r : Record) : Checked Policy :=
  ofParts <$> required r "alert_type" nonEmptyText
    <*> withDefault r "name" none (optional text)
    <*> withDefault r "description" none (optional text)
    <*> withDefault r "patterns" [] (listOf PatternSpec.check)
    <*> withDefault r (defaultsName r) [] anyMap
    <*> withDefault r "action_templates" [] (listOf ActionTemplate.check)
    <*> withDefault r "summary_template" none (optional text)
    <*> withDefault r "decision_rules" [] (listOf DecisionRule.check)
    <*> withDefault r "default_decision" none (optional DecisionState.check)
    <*> withDefault r "sample_texts" [] (listOf text)
    <*> withDefault r "critical_fields" [] (listOf text)
    <*> withDefault r "guard" none (optional Guard.check)
    <*> withDefault r "prompt_hints" [] (listOf text)

/-- Checks a policy. -/
def check : Json → Checked Policy := object fun r => checkFields (upgrade r)

/-- The fields of a policy as a document has them. -/
def fields (p : Policy) : Record := [
  ("alert_type", .string p.alertType),
  ("name", textOrNull p.name),
  ("description", textOrNull p.description),
  ("patterns", .array (p.patterns.map fun x => .object x.fields)),
  ("extraction_defaults", .object p.extractionDefaults),
  ("action_templates", .array (p.actionTemplates.map fun x => .object x.fields)),
  ("summary_template", textOrNull p.summaryTemplate),
  ("decision_rules", .array (p.decisionRules.map fun x => .object x.fields)),
  ("default_decision", textOrNull (p.defaultDecision.map DecisionState.word)),
  ("sample_texts", .array (p.sampleTexts.map .string)),
  ("critical_fields", .array (p.criticalFields.map .string)),
  ("guard", match p.guard with | some g => .object g.fields | none => .null),
  ("prompt_hints", .array (p.promptHints.map .string))]

/-- Some fields are critical. -/
def isFieldCritical (p : Policy) : Bool := !p.criticalFields.isEmpty

/-- A value that is null or a text of nothing but space. -/
def isVoid : Json → Bool
  | .null => true
  | .string s => Text.isBlankText s
  | _ => false

/-- The critical fields that are absent, null or blank. -/
def missingCritical (p : Policy) (values : Record) : List String :=
  p.criticalFields.filter fun name => isVoid (values.getD name)

end Policy

end Triage
