import Triage.Proofs.Origin
import Triage.Proofs.Presence

/-!
# What a completion loses

A model is asked to complete an alert because something critical is missing in it. The alert returned
is not the recognised one with the gaps filled, though: it is made anew of the policy's defaults and
of what the model supplies, null counting as nothing (`Completion.value`). What the policy's pattern
has captured is not in it unless the model repeats it. So a critical field that was there before can
be missing afterwards, and `IsCompletion` says exactly when.
-/

namespace Triage

open Schema

namespace Completion

variable {policy : Policy} {alert merged : Alert} {name : String}

/-- What a completed alert has under a name, before it is checked. -/
def value (policy : Policy) (alert : Alert) (name : String) : Json :=
  if name = "parse_method" then .string ParseMethod.model.word
  else if name = "alert_type" then .string policy.alertType
  else if (alert.fields.getD name).isNull then policy.extractionDefaults.getD name
  else alert.fields.getD name

theorem get?_supplied (h : alert.fields.names.Nodup) (name : String) :
    (supplied alert.fields).get? name = (alert.fields.get? name).filter (!·.isNull) :=
  Record.get?_filter h (!·.isNull) name

theorem nodup_supplied (h : alert.fields.names.Nodup) : (supplied alert.fields).names.Nodup :=
  (List.filter_sublist.map Prod.fst).nodup h

theorem getD_record (h : alert.fields.names.Nodup) (name : String) :
    (record policy alert).getD name = value policy alert name := by
  have hlaid : (policy.extractionDefaults.overlay (supplied alert.fields)).getD name =
      if (alert.fields.getD name).isNull then policy.extractionDefaults.getD name
      else alert.fields.getD name := by
    rw [Record.getD, Record.get?_overlay (nodup_supplied h), get?_supplied h]
    unfold Record.getD
    cases alert.fields.get? name with
    | none => rfl
    | some v => cases v <;> rfl
  -- the type and the method are set last; the two defaults of null make no difference
  rw [record, Record.getD_set, Record.getD_set, Record.getD_setDefault_null,
    Record.getD_setDefault_null, hlaid]
  rfl

/-- **What a completed alert lacks, its value lacks.** -/
theorem isVoid_of_merge (h : alert.fields.names.Nodup) (hmerge : merge policy alert = .ok merged)
    (name : String) :
    Policy.isVoid (merged.fields.getD name) = Policy.isVoid (value policy alert name) := by
  have hcheck : Alert.checkFields (record policy alert) = .valid merged :=
    Checked.orFail_eq_ok_iff.mp hmerge
  rw [Alert.isVoid_fields (Alert.reads_of_checkFields hcheck), getD_record h]

end Completion

/-! ## Given alerts give no field twice -/

namespace Alert

variable {r : Record} {a : Alert}

theorem nodup_fields (hr : r.names.Nodup) (h : Reads r a) : a.fields.names.Nodup := by
  rw [names_fields, h.extras]
  refine List.nodup_append.mpr ⟨by decide, ?_, ?_⟩
  · exact (List.filter_sublist.map Prod.fst).nodup hr
  · rintro name hname other hother rfl
    obtain ⟨field, hfield, rfl⟩ := List.mem_map.mp hother
    have := (List.mem_filter.mp hfield).2
    simp [hname] at this

end Alert

theorem Reply.nodup_of_object {content : String} {payload : Record}
    (h : object content = .ok payload) : payload.names.Nodup := by
  rw [object] at h
  split at h
  · cases h
  · split at h
    · cases h
    · rename_i hparse
      cases h
      exact Json.nodup_of_parseChars hparse
    · cases h

theorem Cascade.IsGiven.nodup {alert : Alert} (h : IsGiven alert) : alert.fields.names.Nodup := by
  obtain ⟨content, payload, hpayload, hcheck⟩ := h.checked
  exact Alert.nodup_fields (Record.nodup_set (Reply.nodup_of_object hpayload) _ _)
    (Alert.reads_of_checkFields hcheck)

namespace Reading

variable {policies : List Policy} {r : Recognition} {i : Interpretation} {text : String}
  {s s₁ s₂ s' : Session}

theorem mem_missingCritical {policy : Policy} {values : Record} {name : String} :
    name ∈ policy.missingCritical values ↔
      name ∈ policy.criticalFields ∧ Policy.isVoid (values.getD name) = true := by
  rw [Policy.missingCritical, List.mem_filter]

/-- What is found comes of completing what was recognised with an alert of the models. -/
structure IsCompletion (r : Recognition) (alert : Alert) (i : Interpretation) : Prop where
  /-- The policy that recognised the text is kept. -/
  policy : i.policy = some r.policy
  /-- A critical field is missing afterwards exactly where the models' value for it is blank, or where
  they have none and the policy has no default for it that is neither null nor blank. The type is
  always the policy's, and the method is known. -/
  missing_iff : ∀ name, name ∈ r.policy.missingCritical i.alert.fields ↔
    name ∈ r.policy.criticalFields ∧
      Policy.isVoid (Completion.value r.policy alert name) = true
  /-- No critical field is lost exactly where none that was there is missing in this sense. -/
  monotone_iff : r.policy.missingCritical i.alert.fields ⊆ r.policy.missingCritical r.alert.fields ↔
    ∀ name ∈ r.policy.criticalFields, Policy.isVoid (r.alert.fields.getD name) = false →
      Policy.isVoid (Completion.value r.policy alert name) = false

theorem isCompletion_of_merge {alert merged : Alert} {model : Option String}
    (h : Cascade.IsGiven alert) (hmerge : Completion.merge r.policy alert = .ok merged) :
    IsCompletion r alert ⟨merged, some r.policy, model⟩ := by
  have hmissing (name : String) : name ∈ r.policy.missingCritical merged.fields ↔
      name ∈ r.policy.criticalFields ∧
        Policy.isVoid (Completion.value r.policy alert name) = true := by
    rw [mem_missingCritical, Completion.isVoid_of_merge h.nodup hmerge]
  refine ⟨rfl, hmissing, ?_⟩
  constructor
  · intro hsubset name hname hpresent
    refine Bool.eq_false_iff.mpr fun hvoid => ?_
    have hbefore := hsubset ((hmissing name).mpr ⟨hname, hvoid⟩)
    rw [(mem_missingCritical.mp hbefore).2] at hpresent
    cases hpresent
  · intro hkept name hname
    obtain ⟨hcritical, hvoid⟩ := (hmissing name).mp hname
    refine mem_missingCritical.mpr ⟨hcritical, Bool.of_not_eq_false fun hpresent => ?_⟩
    rw [hkept name hcritical hpresent] at hvoid
    cases hvoid

/-- **A completion keeps of the critical fields what the model and the policy's defaults say**, and
nothing of what was captured. -/
theorem isCompletion_of_ofText {backend : Backend} {given : Option (List String)}
    {denied : List String} (hd : (denylist given).inSession s = (.ok denied, s₁))
    (hp : Store.load.inSession s₁ = (.ok policies, s₂))
    (hrec : Recognition.ofText text policies = .ok (some r))
    (hopen : r.policy.missingCritical r.alert.fields ≠ [])
    (h : (ofText backend given text).inSession s = (.ok (.found i), s')) :
    ∃ alert attached model, Cascade.Gives backend text s₂ alert attached model ∧
      i.model = some model ∧ IsCompletion r alert i := by
  obtain ⟨recognised, hrec', hfound⟩ := foundBy_of_ofText hd hp h
  obtain ⟨path, hheld⟩ := Store.held_of_load hp
  rw [hrec] at hrec'
  cases hrec'
  cases hfound with
  | policy _ hnone => exact absurd hnone hopen
  | completion _ _ hgives _ hmerge =>
      exact ⟨_, _, _, hgives, rfl, isCompletion_of_merge (hgives.isGiven hheld).1 hmerge⟩

/-! ## A captured field that the model does not repeat -/

/-- A policy that captures one of its two critical fields. -/
def hosted : Json := .object [
  ("alert_type", .string "disk_full"),
  ("patterns", .array [.object [("pattern", .string "disk full on (?P<instance_name>\\S+)")]]),
  ("critical_fields", .array [.string "instance_name", .string "service_name"])]

/-- What a model answers: it has the other field and not this one. -/
def partly : Json := .object [
  ("alert_type", .string "disk_full"), ("project_id", .null), ("instance_name", .null),
  ("metric_labels", .object []), ("confidence", .int 1), ("missing_fields", .array []),
  ("service_name", .string "api")]

/-- A backend with one model, which gives the answer. -/
def supplying : Backend := .replying [.listing ["llama3"], .saying (partly.write .ascii)]

theorem found_hosted :
    ∃ (policy : Policy) (i : Interpretation) (s' : Session),
      Policy.check hosted = .valid policy ∧
      (ofText supplying (some []) "disk full on vm-1").inSession (.holding .nearby [policy]) =
        (.ok (.found i), s') ∧
      (leftOpen "disk full on vm-1" policy, policy.missingCritical i.alert.fields) =
        (some ["service_name"], ["instance_name"]) :=
  exists_found (fun policy i =>
    (leftOpen "disk full on vm-1" policy, policy.missingCritical i.alert.fields))
    (by decide +kernel)

/-- The critical field that was there is missing afterwards. -/
theorem lost_hosted :
    ∃ (policy : Policy) (r : Recognition) (i : Interpretation) (s' : Session),
      Policy.check hosted = .valid policy ∧
      Recognition.ofText "disk full on vm-1" [policy] = .ok (some r) ∧
      (ofText supplying (some []) "disk full on vm-1").inSession (.holding .nearby [policy]) =
        (.ok (.found i), s') ∧
      r.policy.missingCritical r.alert.fields = ["service_name"] ∧
      policy.missingCritical i.alert.fields = ["instance_name"] := by
  obtain ⟨policy, i, s', hpolicy, hrun, hmissing⟩ := found_hosted
  obtain ⟨hbefore, hafter⟩ := Prod.mk.inj hmissing
  obtain ⟨r, hrec, hopen⟩ := leftOpen_eq_some_iff.mp hbefore
  exact ⟨policy, r, i, s', hpolicy, hrec, hrun, hopen, hafter⟩

theorem isCompletion_hosted :
    ∃ (policy : Policy) (r : Recognition) (i : Interpretation) (s' : Session),
      Recognition.ofText "disk full on vm-1" [policy] = .ok (some r) ∧
      (ofText supplying (some []) "disk full on vm-1").inSession (.holding .nearby [policy]) =
        (.ok (.found i), s') ∧
      ∃ alert attached model,
        Cascade.Gives supplying "disk full on vm-1" (.holding .nearby [policy]) alert attached
          model ∧
        i.model = some model ∧ IsCompletion r alert i := by
  obtain ⟨policy, i, s', -, hrun, hmissing⟩ := found_hosted
  obtain ⟨r, hrec, hopen⟩ := leftOpen_eq_some_iff.mp (Prod.mk.inj hmissing).1
  have hload : Store.load.inSession (.holding .nearby [policy]) =
      (.ok [policy], .holding .nearby [policy]) := Store.inSession_load_of_held rfl
  exact ⟨policy, r, i, s', hrec, hrun, isCompletion_of_ofText (Run.inSession_pure _ _) hload hrec
    (by rw [hopen]; decide) hrun⟩

end Reading
end Triage
