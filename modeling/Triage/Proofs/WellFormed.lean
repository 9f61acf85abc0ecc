import Triage.Proofs.Magnitude
import Triage.Proofs.Attachment

/-!
# Alerts that are found are well formed

The values of an alert come from everywhere: from a policy's defaults, from captured texts, from the
JSON of a model, where `NaN` and `Infinity` are numbers. Whatever they were, the fields of an alert
that is returned are of the right kinds, and its confidence is a number from zero to one
(`Alert.IsWellFormed`).

The fields are looked up in the record that the alert is written as, by name. That a lookup finds the
alert's own value and not one kept besides is part of the result. On each of the three ways in which
an alert is found the last thing done to it is a check (`Reading.FoundBy.checked`), and an alert that
has been checked is well formed.
-/

namespace Triage

open Schema Checked

/-- The value is a text. -/
def Json.IsText (v : Json) : Prop := ∃ s, v = .string s

/-- The value is a number from `a` to `b`, so it is neither an infinity nor no number. -/
def Json.IsBetween (a b : ℚ) (v : Json) : Prop :=
  ∃ (x : Binary64) (q : ℚ), v = .float x ∧ x.value? = some q ∧ a ≤ q ∧ q ≤ b

namespace Alert

variable {r : Record} {a : Alert}

/-- Every field is there and holds what its name asks for. -/
structure IsWellFormed (a : Alert) : Prop where
  alertType : ∃ s, a.fields.get? "alert_type" = some (.string s) ∧ s ≠ ""
  confidence : ∃ v, a.fields.get? "confidence" = some v ∧ v.IsBetween 0 1
  metricLabels : ∃ labels : Record,
    a.fields.get? "metric_labels" = some (.object labels) ∧ ∀ l ∈ labels, l.2.IsText
  missingFields : ∃ items, a.fields.get? "missing_fields" = some (.array items) ∧
    ∀ v ∈ items, v.IsText
  projectId : ∃ v, a.fields.get? "project_id" = some v ∧ (v.IsText ∨ v = .null)
  instanceName : ∃ v, a.fields.get? "instance_name" = some v ∧ (v.IsText ∨ v = .null)

theorem isText_or_null (o : Option String) : (textOrNull o).IsText ∨ textOrNull o = .null := by
  cases o with
  | none => exact .inr rfl
  | some s => exact .inl ⟨s, rfl⟩

/-- **An alert that has been checked is well formed.** -/
theorem isWellFormed_of_reads (h : Reads r a) : a.IsWellFormed where
  alertType := ⟨a.alertType, rfl, h.alertType_ne⟩
  confidence := by
    obtain ⟨v, -, hv⟩ := required_eq_valid_iff.mp h.confidence
    obtain ⟨hlow, hhigh⟩ := le_of_numberBetween hv
    obtain ⟨q, hq, hzero, hone⟩ :=
      Binary64.exists_value_of_le Binary64.value?_zero Binary64.value?_one hlow hhigh
    exact ⟨.float a.confidence, rfl, a.confidence, q, rfl, hq, hzero, hone⟩
  metricLabels := by
    refine ⟨_, rfl, fun l hl => ?_⟩
    obtain ⟨label, -, rfl⟩ := List.mem_map.mp hl
    exact ⟨label.2, rfl⟩
  missingFields := by
    refine ⟨_, rfl, fun v hv => ?_⟩
    obtain ⟨name, -, rfl⟩ := List.mem_map.mp hv
    exact ⟨name, rfl⟩
  projectId := ⟨_, rfl, isText_or_null a.projectId⟩
  instanceName := ⟨_, rfl, isText_or_null a.instanceName⟩

end Alert

namespace Reading

variable {backend : Backend} {denied : List String} {given : Option (List String)}
  {policies : List Policy} {path : Path} {recognised : Option Recognition} {i : Interpretation}
  {text : String} {s s' : Session}

/-- **However an alert is found, it has been checked last of all.** -/
theorem FoundBy.checked (hheld : s.store.held = some (path, policies))
    (hrec : Recognition.ofText text policies = .ok recognised)
    (h : FoundBy denied backend text s recognised i) :
    ∃ r, Alert.checkFields r = .valid i.alert := by
  cases h with
  | @policy r _ _ =>
      obtain ⟨-, captured, -, hcheck⟩ := Recognition.captured_of_ofText hrec
      exact ⟨_, hcheck⟩
  | model hgives _ =>
      obtain ⟨content, payload, -, hcheck⟩ := (hgives.isGiven hheld).1.checked
      exact ⟨_, hcheck⟩
  | completion _ _ _ _ hmerge => exact ⟨_, Checked.orFail_eq_ok_iff.mp hmerge⟩

/-- **Whatever the backend, the denylist, the policies and the text are, an alert that is found is
well formed.** -/
theorem isWellFormed_of_ofText
    (h : (ofText backend given text).inSession s = (.ok (.found i), s')) :
    i.alert.IsWellFormed := by
  have hrun := h
  rw [ofText] at hrun
  obtain ⟨denied, s₁, hd, hrun⟩ := Run.bind_eq_ok_iff.mp hrun
  obtain ⟨policies, s₂, hp, -⟩ := Run.bind_eq_ok_iff.mp hrun
  obtain ⟨recognised, hrec, hfound⟩ := foundBy_of_ofText hd hp h
  obtain ⟨path, hheld⟩ := Store.held_of_load hp
  obtain ⟨r, hcheck⟩ := hfound.checked hheld hrec
  exact Alert.isWellFormed_of_reads (Alert.reads_of_checkFields hcheck)

/-- A policy that captures the confidence as a text and has labels among its defaults. -/
def graded : Json := .object [
  ("alert_type", .string "disk_full"),
  ("patterns", .array [.object [("pattern", .string "disk full \\((?P<confidence>\\S+)\\)")]]),
  ("extraction_defaults", .object [
    ("instance_name", .string "vm-1"),
    ("metric_labels", .object [("zone", .string "b")])])]

theorem found_graded :
    ∃ (policy : Policy) (i : Interpretation) (s' : Session),
      Policy.check graded = .valid policy ∧
      (ofText (.replying []) (some []) "disk full (25e-2)").inSession
        (.holding .nearby [policy]) = (.ok (.found i), s') ∧
      i.alert.confidence = .ofDecimal false 25 (-2) :=
  exists_found (fun _ i => i.alert.confidence) (by decide +kernel)

theorem isWellFormed_graded :
    ∃ (policy : Policy) (i : Interpretation) (s' : Session),
      Policy.check graded = .valid policy ∧
      (ofText (.replying []) (some []) "disk full (25e-2)").inSession
        (.holding .nearby [policy]) = (.ok (.found i), s') ∧
      i.alert.IsWellFormed := by
  obtain ⟨policy, i, s', hpolicy, hrun, -⟩ := found_graded
  exact ⟨policy, i, s', hpolicy, hrun, isWellFormed_of_ofText hrun⟩

end Reading
end Triage
