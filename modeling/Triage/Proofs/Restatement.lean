import Triage.Proofs.Policy
import Triage.Proofs.Presence

/-!
# Writing down what has been accepted

Checking a document makes it over: numbers given as text become numbers, absent fields get their
defaults, an older form of a field becomes the newer one, what a policy does not know is dropped and
what an alert does not know is kept. All of that happens once. Written down with its fields, what has
been accepted is accepted again, and as what it was (`check_fields`).

The proof goes along the parts. Nearly all of them are accepted as written whatever they hold, and
these lemmas have no hypothesis; an expression, a type that must not be empty and a number that must
lie between two others carry over what the first check has found out about them.
-/

namespace Triage

open Schema Checked

/-! ## Values -/

namespace Schema

variable {α : Type} {check : Json → Checked α} {write : α → Json}

/-- A list is accepted where its elements are. -/
theorem listOf_map {items : List α} (h : ∀ a ∈ items, check (write a) = .valid a) :
    listOf check (.array (items.map write)) = .valid items := by
  rw [listOf]
  generalize 0 = i
  induction items generalizing i with
  | nil => rfl
  | cons a rest ih =>
      obtain ⟨ha, hrest⟩ := List.forall_mem_cons.mp h
      rw [List.map_cons, elementsFrom, under_eq_valid_iff.mpr ha, ih hrest]
      rfl

/-- A map is accepted where its values are. -/
theorem mapOf_map {fields : List (String × α)} (h : ∀ a, check (write a) = .valid a) :
    mapOf check (.object (fields.map fun field => (field.1, write field.2))) = .valid fields := by
  rw [mapOf]
  induction fields with
  | nil => rfl
  | cons field rest ih =>
      rw [List.map_cons, membersOf, under_eq_valid_iff.mpr (h field.2), ih]
      rfl

theorem listOf_text (items : List String) :
    listOf text (.array (items.map .string)) = .valid items :=
  listOf_map fun _ _ => rfl

theorem optional_textOrNull (o : Option String) : optional text (textOrNull o) = .valid o := by
  cases o <;> rfl

theorem optional_numberOrNull (o : Option Binary64) :
    optional number (Alert.numberOrNull o) = .valid o := by
  cases o <;> rfl

/-- What has been accepted between two numbers is so again. -/
theorem numberBetween_float {low high x : Binary64} {v : Json}
    (h : numberBetween low high v = .valid x) : numberBetween low high (.float x) = .valid x := by
  obtain ⟨hlow, hhigh⟩ := le_of_numberBetween h
  simp [numberBetween, number, andThen, hlow, hhigh]

end Schema

theorem DecisionState.check_word (d : DecisionState) : check (.string d.word) = .valid d := by
  cases d <;> rfl

theorem DecisionState.optional_check (o : Option DecisionState) :
    optional check (textOrNull (o.map word)) = .valid o := by
  cases o with
  | none => rfl
  | some d => cases d <;> rfl

/-! ## The parts of a policy -/

theorem Guard.check_fields (g : Guard) : check (.object g.fields) = .valid g := by
  have hrequire : withDefault g.fields "require_any" [] (listOf text) = .valid g.requireAny :=
    withDefault_of_get? rfl (listOf_text _)
  have hexclude : withDefault g.fields "exclude_any" [] (listOf text) = .valid g.excludeAny :=
    withDefault_of_get? rfl (listOf_text _)
  rw [check, object, hrequire, hexclude]
  rfl

theorem ActionTemplate.check_fields (t : ActionTemplate) : check (.object t.fields) = .valid t := by
  have hlabel : withDefault t.fields "label" "Default" text = .valid t.label :=
    withDefault_of_get? rfl rfl
  have hdescription :
      withDefault t.fields "description" none (optional text) = .valid t.description :=
    withDefault_of_get? rfl (optional_textOrNull _)
  have htemplate : required t.fields "template" text = .valid t.template :=
    required_of_get? rfl rfl
  have hparameters : withDefault t.fields "parameters" [] anyMap = .valid t.parameters :=
    withDefault_of_get? rfl rfl
  rw [check, object, hlabel, hdescription, htemplate, hparameters]
  rfl

theorem DecisionRule.check_fields (rule : DecisionRule) :
    check (.object rule.fields) = .valid rule := by
  have hcondition : withDefault rule.fields "condition" [] anyMap = .valid rule.condition :=
    withDefault_of_get? rfl rfl
  have hdecision : required rule.fields "decision" DecisionState.check = .valid rule.decision :=
    required_of_get? rfl (DecisionState.check_word _)
  rw [check, object, hcondition, hdecision]
  rfl

namespace PatternSpec

variable {q : PatternSpec} {v : Json}

/-- A pattern is accepted as written as long as its expression is not empty. -/
theorem check_fields (hne : q.source ≠ "") : check (.object q.fields) = .valid q := by
  have hkind : withDefault q.fields "type" kind checkKind = .valid kind :=
    withDefault_of_get? rfl rfl
  have hsource : required q.fields "pattern" nonEmptyText = .valid ⟨q.source, hne⟩ :=
    required_of_get? rfl (nonEmptyText_eq_valid_iff.mpr rfl)
  have hcaptures : withDefault q.fields "capture_groups" [] (mapOf whole) = .valid q.written := by
    have hmap : q.captures.map (fun c => (c.1, Json.int c.2)) =
        q.written.map fun c => (c.1, Json.int c.2) := by
      rw [written, signed, List.map_map]
      rfl
    refine withDefault_of_get? (v := .object (q.captures.map fun c => (c.1, .int c.2))) rfl ?_
    rw [hmap]
    exact mapOf_map fun _ => rfl
  rw [check, object, hkind, hsource, hcaptures]
  exact ofParts_eq_valid_iff.mpr ⟨rfl, rfl⟩

end PatternSpec

namespace Policy

variable {p : Policy} {v : Json}

/-- A policy is accepted as written as long as the expressions of its patterns are not empty. -/
theorem check_fields (hne : ∀ q ∈ p.patterns, q.source ≠ "") :
    check (.object p.fields) = .valid p := by
  have htype : required p.fields "alert_type" nonEmptyText = .valid ⟨p.alertType, p.alertType_ne⟩ :=
    required_of_get? rfl (nonEmptyText_eq_valid_iff.mpr rfl)
  have hname : withDefault p.fields "name" none (optional text) = .valid p.name :=
    withDefault_of_get? rfl (optional_textOrNull _)
  have hdescription :
      withDefault p.fields "description" none (optional text) = .valid p.description :=
    withDefault_of_get? rfl (optional_textOrNull _)
  have hpatterns :
      withDefault p.fields "patterns" [] (listOf PatternSpec.check) = .valid p.patterns :=
    withDefault_of_get? rfl (listOf_map fun q hq => PatternSpec.check_fields (hne q hq))
  have hdefaults :
      withDefault p.fields "extraction_defaults" [] anyMap = .valid p.extractionDefaults :=
    withDefault_of_get? rfl rfl
  have htemplates : withDefault p.fields "action_templates" [] (listOf ActionTemplate.check) =
      .valid p.actionTemplates :=
    withDefault_of_get? rfl (listOf_map fun t _ => t.check_fields)
  have hsummary :
      withDefault p.fields "summary_template" none (optional text) = .valid p.summaryTemplate :=
    withDefault_of_get? rfl (optional_textOrNull _)
  have hrules :
      withDefault p.fields "decision_rules" [] (listOf DecisionRule.check) = .valid p.decisionRules :=
    withDefault_of_get? rfl (listOf_map fun rule _ => rule.check_fields)
  have hdecision : withDefault p.fields "default_decision" none (optional DecisionState.check) =
      .valid p.defaultDecision :=
    withDefault_of_get? rfl (DecisionState.optional_check _)
  have hsamples : withDefault p.fields "sample_texts" [] (listOf text) = .valid p.sampleTexts :=
    withDefault_of_get? rfl (listOf_text _)
  have hcritical :
      withDefault p.fields "critical_fields" [] (listOf text) = .valid p.criticalFields :=
    withDefault_of_get? rfl (listOf_text _)
  have hguard : withDefault p.fields "guard" none (optional Guard.check) = .valid p.guard := by
    refine withDefault_of_get? rfl ?_
    cases p.guard with
    | none => rfl
    | some g =>
        show some <$> Guard.check (.object g.fields) = .valid (some g)
        rw [g.check_fields]
        rfl
  have hhints : withDefault p.fields "prompt_hints" [] (listOf text) = .valid p.promptHints :=
    withDefault_of_get? rfl (listOf_text _)
  -- the fields as written are of the newer form already
  have hupgrade : upgrade p.fields = p.fields := rfl
  have hnewer : defaultsName p.fields = "extraction_defaults" := rfl
  rw [check, object, hupgrade, checkFields, hnewer, htype, hname, hdescription, hpatterns, hdefaults,
    htemplates, hsummary, hrules, hdecision, hsamples, hcritical, hguard, hhints]
  rfl

end Policy

/-! ## Alerts -/

namespace Alert

variable {r : Record} {a : Alert}

theorem get?_detail (a : Alert) (d : Detail) :
    a.fields.get? d.name = some (textOrNull (a.detail d)) := by
  cases d <;> rfl

/-- Each detail of an alert is accepted as written. -/
theorem checkDetails_fields (a : Alert) (details : List Detail) :
    checkDetails a.fields details =
      .valid fun d => if d ∈ details then a.detail d else none := by
  induction details with
  | nil => rfl
  | cons d rest ih =>
      have hd : withDefault a.fields d.name none (optional text) = .valid (a.detail d) :=
        withDefault_of_get? (get?_detail a d) (optional_textOrNull _)
      rw [checkDetails, hd, ih, map_valid, seq_valid, Checked.valid.injEq]
      funext e
      by_cases he : e = d
      · simp [he]
      · simp [he]

/-- The fields kept besides the declared ones are kept again. -/
theorem extrasOf_fields (h : a.extras = extrasOf r) : extrasOf a.fields = a.extras := by
  obtain ⟨declared, hfields, hnames⟩ := fields_eq_append a
  have hdeclared : extrasOf declared = [] := by
    refine List.filter_eq_nil_iff.mpr fun field hfield => ?_
    have hmem : field.1 ∈ declaredNames := hnames ▸ List.mem_map_of_mem hfield
    simpa using hmem
  have hextras : extrasOf a.extras = a.extras := by
    rw [h, extrasOf, extrasOf, List.filter_filter]
    simp
  have hsplit : extrasOf a.fields = extrasOf declared ++ extrasOf a.extras := by
    rw [hfields]
    exact List.filter_append ..
  rw [hsplit, hdeclared, hextras, List.nil_append]

/-- An alert that has been checked reads off its own fields. -/
theorem reads_fields (h : Reads r a) : Reads a.fields a where
  alertType := rfl
  alertType_ne := h.alertType_ne
  projectId := required_of_get? rfl (optional_textOrNull _)
  instanceName := required_of_get? rfl (optional_textOrNull _)
  metricLabels := required_of_get? rfl (mapOf_map fun _ => rfl)
  confidence := by
    obtain ⟨v, -, hv⟩ := required_eq_valid_iff.mp h.confidence
    exact required_of_get? rfl (numberBetween_float hv)
  missingFields := required_of_get? rfl (listOf_text _)
  parseMethod := required_of_get? rfl (ParseMethod.check_word _)
  thresholdPercent := withDefault_of_get? rfl (optional_numberOrNull _)
  valuePercent := withDefault_of_get? rfl (optional_numberOrNull _)
  detail := by
    rw [checkDetails_fields, Checked.valid.injEq]
    funext d
    exact if_pos (by cases d <;> decide)
  extras := (extrasOf_fields h.extras).symm

/-- **An alert that has been checked is accepted as written.** -/
theorem check_fields (h : Reads r a) : check (.object a.fields) = .valid a :=
  checkFields_of_reads (reads_fields h)

end Alert

/-! ## The round trip -/

/-- **What has been accepted, written down and checked again is accepted as what it was**, policies
as well as alerts. So it is also written down as it was before. -/
theorem accepted_as_written :
    (∀ (v : Json) (p : Policy), Policy.check v = .valid p →
      Policy.check (.object p.fields) = .valid p) ∧
    (∀ (v : Json) (a : Alert), Alert.check v = .valid a →
      Alert.check (.object a.fields) = .valid a) := by
  refine ⟨fun v p h => Policy.check_fields (Policy.source_ne_of_check h), fun v a h => ?_⟩
  cases v with
  | object r => exact Alert.check_fields (Alert.reads_of_checkFields h)
  | _ => cases h

/-- A policy of an older form: one action template, defaults under their former name, groups that are
not given as whole numbers, and a field that no policy has. -/
def dated : Json := .object [
  ("alert_type", .string "disk_full"),
  ("owner", .string "ops"),
  ("patterns", .array [.object [
    ("pattern", .string "disk (\\d+)% full on (\\S+)"),
    ("capture_groups", .object [
      ("value_percent", .string " 1.0 "), ("instance_name", .float (.ofInt 2)),
      ("raw", .bool false)])]]),
  ("extraction_rules", .object [("environment", .null), ("zones", .array [.int 1])]),
  ("action_template", .string "restart \x7binstance_name\x7d"),
  ("decision_rules", .array [.object [("decision", .string "NO_ACTION")]]),
  ("guard", .null)]

/-- An alert with numbers given as text and as whole numbers, and with fields that no alert has. -/
def lenient : Json := .object [
  ("zone", .object [("name", .string "b")]), ("alert_type", .string "disk_full"),
  ("project_id", .null), ("instance_name", .string "vm-1"),
  ("metric_labels", .object [("disk", .string "sda")]), ("confidence", .string " 5e-1 "),
  ("missing_fields", .array [.string "service_name"]), ("parse_method", .string "llm"),
  ("threshold_percent", .int 80), ("value_percent", .string "nan"), ("retries", .int 3)]

theorem accepted_as_written_dated :
    ∃ (p : Policy) (a : Alert),
      Policy.check dated = .valid p ∧ Policy.check (.object p.fields) = .valid p ∧
      Alert.check lenient = .valid a ∧ Alert.check (.object a.fields) = .valid a := by
  obtain ⟨p, hp⟩ := exists_of_isValid (x := Policy.check dated) (by decide +kernel)
  obtain ⟨a, ha⟩ := exists_of_isValid (x := Alert.check lenient) (by decide +kernel)
  exact ⟨p, a, hp, accepted_as_written.1 dated p hp, ha, accepted_as_written.2 lenient a ha⟩

end Triage
