import Triage.Proofs.Schema
import Triage.Recognition
import Triage.Completion

/-!
# Accepted alerts

An alert that has been checked reads off its record: `Alert.Reads` says field by field what the
check has found there. For the records that policies make up this settles two things.

**The type of a completed alert is the policy's.** Whatever the defaults and the model supply is
overruled by the last two fields set, and one of them is the type (`alertType_of_merge`).

**A record is no alert only through the fault of a policy.** The check of an alert decides
(`decides_check`), so what it refuses is refused with issues, and a policy is to blame for them.
-/

namespace Triage

open Schema Checked

theorem ParseMethod.check_word (m : ParseMethod) : check (.string m.word) = .valid m := by
  cases m <;> rfl

namespace Alert

variable {r : Record} {a : Alert}

/-! ## What a check finds -/

/-- The alert holds what its record says, the fields of no declared name being the extra ones. -/
structure Reads (r : Record) (a : Alert) : Prop where
  alertType : r.get? "alert_type" = some (.string a.alertType)
  alertType_ne : a.alertType ≠ ""
  projectId : required r "project_id" (optional text) = .valid a.projectId
  instanceName : required r "instance_name" (optional text) = .valid a.instanceName
  metricLabels : required r "metric_labels" (mapOf text) = .valid a.metricLabels
  confidence : required r "confidence" (numberBetween .zero .one) = .valid a.confidence
  missingFields : required r "missing_fields" (listOf text) = .valid a.missingFields
  parseMethod : required r "parse_method" ParseMethod.check = .valid a.parseMethod
  thresholdPercent :
    withDefault r "threshold_percent" none (optional number) = .valid a.thresholdPercent
  valuePercent : withDefault r "value_percent" none (optional number) = .valid a.valuePercent
  detail : checkDetails r Detail.all = .valid a.detail
  extras : a.extras = extrasOf r

theorem reads_of_checkFields (h : checkFields r = .valid a) : Reads r a := by
  rw [checkFields] at h
  simp only [seq_eq_valid_iff, map_eq_valid_iff] at h
  obtain ⟨_, _, ⟨_, detail, ⟨_, value, ⟨_, threshold, ⟨_, method, ⟨_, missing, ⟨_, confidence,
    ⟨_, labels, ⟨_, inst, ⟨_, project, ⟨type, htype, rfl⟩, hproject, rfl⟩, hinst, rfl⟩, hlabels,
    rfl⟩, hconfidence, rfl⟩, hmissing, rfl⟩, hmethod, rfl⟩, hthreshold, rfl⟩, hvalue, rfl⟩, hdetail,
    rfl⟩, hextras, rfl⟩ := h
  obtain ⟨v, hv, hcheck⟩ := required_eq_valid_iff.mp htype
  exact
    { alertType := by rw [hv, nonEmptyText_eq_valid_iff.mp hcheck]
      alertType_ne := type.property
      projectId := hproject
      instanceName := hinst
      metricLabels := hlabels
      confidence := hconfidence
      missingFields := hmissing
      parseMethod := hmethod
      thresholdPercent := hthreshold
      valuePercent := hvalue
      detail := hdetail
      extras := (Checked.valid.inj hextras).symm }

/-- The check of a record gives the alert that holds what the record says. -/
theorem checkFields_of_reads (h : Reads r a) : checkFields r = .valid a := by
  have htype : required r "alert_type" nonEmptyText = .valid ⟨a.alertType, h.alertType_ne⟩ :=
    required_eq_valid_iff.mpr ⟨_, h.alertType, nonEmptyText_eq_valid_iff.mpr rfl⟩
  rw [checkFields, htype, h.projectId, h.instanceName, h.metricLabels, h.confidence,
    h.missingFields, h.parseMethod, h.thresholdPercent, h.valuePercent, h.detail, ← h.extras]
  rfl

/-! ## The check decides -/

theorem decides_checkMethod (v : Json) : Decides (ParseMethod.check v) := by
  unfold ParseMethod.check
  split
  · split
    · exact decides_valid _
    · split
      · exact decides_valid _
      · exact decides_fault _
  · exact decides_fault _

theorem decides_checkDetails (r : Record) (details : List Detail) :
    Decides (checkDetails r details) := by
  induction details with
  | nil => exact decides_valid _
  | cons d rest ih =>
      refine decides_seq (decides_map (decides_withDefault _ ?_) _) ih
      exact decides_optional decides_text

theorem decides_checkFields (r : Record) : Decides (checkFields r) := by
  have hoptional := decides_optional decides_text
  have hnumber := decides_optional decides_number
  -- the parts come off from the last field to the first
  refine decides_seq (decides_seq ?_ (decides_checkDetails r Detail.all)) (decides_valid _)
  refine decides_seq (decides_seq ?_ (decides_withDefault none hnumber))
    (decides_withDefault none hnumber)
  refine decides_seq (decides_seq ?_ (decides_required (decides_listOf decides_text)))
    (decides_required decides_checkMethod)
  refine decides_seq (decides_seq ?_ (decides_required (decides_mapOf decides_text)))
    (decides_required (decides_numberBetween .zero .one))
  refine decides_seq (decides_seq ?_ (decides_required hoptional)) (decides_required hoptional)
  exact decides_map (decides_required decides_nonEmptyText) _

theorem decides_check (v : Json) : Decides (check v) := by
  cases v with
  | object fields => exact decides_checkFields fields
  | _ => exact decides_fault _

end Alert

/-! ## Records made by policies -/

/-- A check that decides fails only by what its issues amount to. -/
theorem Checked.policies_of_orFail {α : Type} {x : Checked α} {fault : List Issue → PolicyFault}
    {e : Failure} (hx : x.Decides) (h : x.orFail fault = .error e) :
    ∃ issues, e = .policies (fault issues) := by
  cases x with
  | valid a => cases h
  | invalid issues => exact ⟨issues, (Except.error.inj h).symm⟩
  | countTooLarge => exact absurd rfl hx

theorem Checked.orFail_eq_ok_iff {α : Type} {x : Checked α} {fault : List Issue → PolicyFault}
    {a : α} : x.orFail fault = .ok a ↔ x = .valid a := by
  cases x <;> simp [orFail]

namespace Recognition

variable {text : String} {policies : List Policy} {e : Failure}

/-- **Recognising fails only through the fault of a policy.** -/
theorem policies_of_ofText (h : ofText text policies = .error e) :
    ∃ fault : PolicyFault, e = .policies fault := by
  induction policies with
  | nil => cases h
  | cons policy rest ih =>
      rw [ofText] at h
      rcases bind_eq_error_iff.mp h with hcapture | ⟨captured, -, h⟩
      · cases hc : capture policy text with
        | error fault =>
            rw [hc] at hcapture
            exact ⟨.capture fault, (Except.error.inj hcapture).symm⟩
        | ok captured =>
            rw [hc] at hcapture
            cases hcapture
      · cases captured with
        | none => exact ih h
        | some fields =>
            rcases bind_eq_error_iff.mp h with halert | ⟨alert, -, h⟩
            · obtain ⟨issues, he⟩ := policies_of_orFail (Alert.decides_check _) halert
              exact ⟨_, he⟩
            · cases h

end Recognition

namespace Completion

variable {policy : Policy} {alert merged : Alert} {e : Failure}

/-- **A completed alert is of the policy's type.** -/
theorem alertType_of_merge (h : merge policy alert = .ok merged) :
    merged.alertType = policy.alertType := by
  have hcheck : Alert.checkFields (record policy alert) = .valid merged := orFail_eq_ok_iff.mp h
  have htype := (Alert.reads_of_checkFields hcheck).alertType
  rw [record, Record.get?_set, if_neg (by decide), Record.get?_set, if_pos rfl] at htype
  exact (Json.string.inj (Option.some.inj htype)).symm

theorem policies_of_merge (h : merge policy alert = .error e) :
    ∃ fault : PolicyFault, e = .policies fault := by
  obtain ⟨issues, he⟩ := policies_of_orFail (Alert.decides_check _) h
  exact ⟨_, he⟩

end Completion
end Triage
