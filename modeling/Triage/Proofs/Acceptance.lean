import Triage.Proofs.Presence

/-!
# Which records are alerts

A record is checked field by field, and no field looks at another one. So a record is an alert exactly
where it has the fields that are required and each field accepts its value
(`Alert.exists_iff_accepts`), and whether a change of a record leaves it an alert is a question about
the fields that have changed.
-/

namespace Triage

open Schema Checked

namespace Alert

variable {r : Record} {a : Alert} {name : String} {v : Json}

/-! ## Values that fields accept -/

/-- The fields that may hold any text. -/
def textNames : List String := ["project_id", "instance_name"] ++ Detail.all.map Detail.name

/-- The fields that may hold any number. -/
def numberNames : List String := ["threshold_percent", "value_percent"]

/-- The fields that say what an alert is and how it was found. -/
def pinnedNames : List String := ["alert_type", "parse_method"]

/-- The fields without which a record is no alert. -/
def requiredNames : List String := [
  "alert_type", "project_id", "instance_name", "metric_labels", "confidence", "missing_fields",
  "parse_method"]

/-- The field of this name accepts the value. A field that is not declared accepts any. -/
def accepts (name : String) (v : Json) : Bool :=
  if name ∈ textNames then (optional text v).isValid
  else if name ∈ numberNames then (optional number v).isValid
  else if name = "alert_type" then (nonEmptyText v).isValid
  else if name = "metric_labels" then (mapOf text v).isValid
  else if name = "confidence" then (numberBetween .zero .one v).isValid
  else if name = "missing_fields" then (listOf text v).isValid
  else if name = "parse_method" then (ParseMethod.check v).isValid
  else true

theorem not_mem_numberNames (h : name ∈ textNames) : name ∉ numberNames := by
  have hdisjoint : ∀ name ∈ textNames, name ∉ numberNames := by decide +kernel
  exact hdisjoint name h

theorem accepts_text (h : name ∈ textNames) (v : Json) :
    accepts name v = (optional text v).isValid := by
  rw [accepts, if_pos h]

theorem accepts_number (h : name ∈ numberNames) (v : Json) :
    accepts name v = (optional number v).isValid := by
  rw [accepts, if_neg fun htext => not_mem_numberNames htext h, if_pos h]

theorem accepts_of_not_declared (h : name ∉ declaredNames) (v : Json) : accepts name v = true := by
  have hdeclared : ∀ other ∈ textNames ++ numberNames, other ∈ declaredNames := by decide +kernel
  have htext : name ∉ textNames := fun hmem => h (hdeclared name (List.mem_append_left _ hmem))
  have hnumber : name ∉ numberNames := fun hmem => h (hdeclared name (List.mem_append_right _ hmem))
  have hne {other : String} (hother : other ∈ declaredNames) : name ≠ other :=
    fun heq => h (heq ▸ hother)
  rw [accepts, if_neg htext, if_neg hnumber, if_neg (hne (by decide)), if_neg (hne (by decide)),
    if_neg (hne (by decide)), if_neg (hne (by decide)), if_neg (hne (by decide))]

theorem accepts_alertType {s : String} (h : s ≠ "") : accepts "alert_type" (.string s) = true := by
  have hcheck : nonEmptyText (.string s) = .valid ⟨s, h⟩ := nonEmptyText_eq_valid_iff.mpr rfl
  exact isValid_of_eq hcheck

/-- A declared field that does not hold a text or a number of any kind has a check of its own. -/
theorem mem_own_of_declared (h : name ∈ declaredNames) (htext : name ∉ textNames)
    (hnumber : name ∉ numberNames) :
    name ∈ ["alert_type", "metric_labels", "confidence", "missing_fields", "parse_method"] := by
  have hall : ∀ other ∈ declaredNames, other ∉ textNames → other ∉ numberNames →
      other ∈ ["alert_type", "metric_labels", "confidence", "missing_fields", "parse_method"] := by
    decide +kernel
  exact hall name h htext hnumber

/-! ## Records whose fields accept their values -/

/-- The fields of a record that has been read have accepted their values. -/
theorem accepts_of_reads (h : Reads r a) (hv : r.get? name = some v) : accepts name v = true := by
  have hfound {α : Type} {check : Json → Checked α} {x : α}
      (hx : required r name check = .valid x) : (check v).isValid = true := by
    obtain ⟨w, hw, hcheck⟩ := required_eq_valid_iff.mp hx
    obtain rfl := Option.some.inj (hv.symm.trans hw)
    exact isValid_of_eq hcheck
  have hfoundOrAbsent {α : Type} {check : Json → Checked (Option α)} {o : Option α}
      (ho : withDefault r name none check = .valid o) : (check v).isValid = true := by
    rcases withDefault_eq_valid_iff.mp ho with ⟨w, hw, hcheck⟩ | ⟨hnone, -⟩
    · obtain rfl := Option.some.inj (hv.symm.trans hw)
      exact isValid_of_eq hcheck
    · rw [hv] at hnone
      cases hnone
  by_cases htext : name ∈ textNames
  · rw [accepts_text htext]
    rcases List.mem_append.mp htext with hrequired | hdetail
    · simp only [List.mem_cons, List.not_mem_nil, or_false] at hrequired
      rcases hrequired with rfl | rfl
      · exact hfound h.projectId
      · exact hfound h.instanceName
    · obtain ⟨d, hd, rfl⟩ := List.mem_map.mp hdetail
      exact hfoundOrAbsent (withDefault_of_checkDetails h.detail hd)
  by_cases hnumber : name ∈ numberNames
  · rw [accepts_number hnumber]
    simp only [numberNames, List.mem_cons, List.not_mem_nil, or_false] at hnumber
    rcases hnumber with rfl | rfl
    · exact hfoundOrAbsent h.thresholdPercent
    · exact hfoundOrAbsent h.valuePercent
  by_cases hdeclared : name ∈ declaredNames
  · have hown := mem_own_of_declared hdeclared htext hnumber
    simp only [List.mem_cons, List.not_mem_nil, or_false] at hown
    rcases hown with rfl | rfl | rfl | rfl | rfl
    · rw [h.alertType] at hv
      rw [← Option.some.inj hv]
      exact accepts_alertType h.alertType_ne
    · exact hfound h.metricLabels
    · exact hfound h.confidence
    · exact hfound h.missingFields
    · exact hfound h.parseMethod
  · exact accepts_of_not_declared hdeclared v

theorem has_of_reads (h : Reads r a) (hname : name ∈ requiredNames) : r.has name = true := by
  have hfound {α : Type} {name : String} {check : Json → Checked α} {x : α}
      (hx : required r name check = .valid x) : r.has name = true := by
    obtain ⟨v, hv, -⟩ := required_eq_valid_iff.mp hx
    rw [Record.has, hv]
    rfl
  simp only [requiredNames, List.mem_cons, List.not_mem_nil, or_false] at hname
  rcases hname with rfl | rfl | rfl | rfl | rfl | rfl | rfl
  · rw [Record.has, h.alertType]
    rfl
  · exact hfound h.projectId
  · exact hfound h.instanceName
  · exact hfound h.metricLabels
  · exact hfound h.confidence
  · exact hfound h.missingFields
  · exact hfound h.parseMethod

/-- The details are accepted where each of them is. -/
theorem exists_checkDetails_of_forall {details : List Detail}
    (h : ∀ d ∈ details, ∃ o, withDefault r d.name none (optional text) = .valid o) :
    ∃ f, checkDetails r details = .valid f := by
  induction details with
  | nil => exact ⟨_, rfl⟩
  | cons d rest ih =>
      obtain ⟨⟨o, ho⟩, hrest⟩ := List.forall_mem_cons.mp h
      obtain ⟨f, hf⟩ := ih hrest
      exact ⟨_, by rw [checkDetails, ho, hf]; rfl⟩

/-- **A record whose fields accept their values is an alert.** -/
theorem exists_of_accepts (hrequired : ∀ name ∈ requiredNames, r.has name = true)
    (haccepts : ∀ name v, r.get? name = some v → accepts name v = true) :
    ∃ a, checkFields r = .valid a := by
  have hfound {α : Type} (name : String) {check : Json → Checked α}
      (hname : name ∈ requiredNames) (heq : ∀ v, accepts name v = (check v).isValid) :
      ∃ x, required r name check = .valid x := by
    obtain ⟨v, hv⟩ := Option.isSome_iff_exists.mp (hrequired name hname)
    have hvalid := haccepts name v hv
    rw [heq] at hvalid
    obtain ⟨x, hx⟩ := exists_of_isValid hvalid
    exact ⟨x, required_of_get? hv hx⟩
  have hfoundOrAbsent {α : Type} (name : String) {check : Json → Checked (Option α)}
      (heq : ∀ v, accepts name v = (check v).isValid) :
      ∃ o, withDefault r name none check = .valid o := by
    cases hv : r.get? name with
    | none => exact ⟨none, withDefault_eq_valid_iff.mpr (.inr ⟨hv, rfl⟩)⟩
    | some v =>
        have hvalid := haccepts name v hv
        rw [heq] at hvalid
        obtain ⟨o, ho⟩ := exists_of_isValid hvalid
        exact ⟨o, withDefault_of_get? hv ho⟩
  obtain ⟨alertType, htype⟩ := hfound "alert_type" (by decide) fun v => rfl
  obtain ⟨project, hproject⟩ :=
    hfound "project_id" (by decide) (accepts_text (by decide))
  obtain ⟨inst, hinst⟩ := hfound "instance_name" (by decide) (accepts_text (by decide))
  obtain ⟨labels, hlabels⟩ := hfound "metric_labels" (by decide) fun v => rfl
  obtain ⟨confidence, hconfidence⟩ := hfound "confidence" (by decide) fun v => rfl
  obtain ⟨missing, hmissing⟩ := hfound "missing_fields" (by decide) fun v => rfl
  obtain ⟨method, hmethod⟩ := hfound "parse_method" (by decide) fun v => rfl
  obtain ⟨threshold, hthreshold⟩ :=
    hfoundOrAbsent "threshold_percent" (accepts_number (by decide))
  obtain ⟨value, hvalue⟩ := hfoundOrAbsent "value_percent" (accepts_number (by decide))
  obtain ⟨detail, hdetail⟩ : ∃ f, checkDetails r Detail.all = .valid f := by
    refine exists_checkDetails_of_forall fun d hd => ?_
    have hmem : d.name ∈ textNames := List.mem_append_right _ (List.mem_map_of_mem hd)
    exact hfoundOrAbsent d.name (accepts_text hmem)
  obtain ⟨v, hv, hcheck⟩ := required_eq_valid_iff.mp htype
  exact ⟨⟨alertType.val, project, inst, labels, confidence, missing, method, threshold, value,
    detail, extrasOf r⟩, checkFields_of_reads
      { alertType := by rw [hv, nonEmptyText_eq_valid_iff.mp hcheck]
        alertType_ne := alertType.property
        projectId := hproject
        instanceName := hinst
        metricLabels := hlabels
        confidence := hconfidence
        missingFields := hmissing
        parseMethod := hmethod
        thresholdPercent := hthreshold
        valuePercent := hvalue
        detail := hdetail
        extras := rfl }⟩

/-- **A record is an alert exactly where it has the required fields and each field accepts its
value.** -/
theorem exists_iff_accepts :
    (∃ a, checkFields r = .valid a) ↔
      (∀ name ∈ requiredNames, r.has name = true) ∧
        ∀ name v, r.get? name = some v → accepts name v = true := by
  constructor
  · rintro ⟨a, ha⟩
    have hreads := reads_of_checkFields ha
    exact ⟨fun name hname => has_of_reads hreads hname,
      fun name v hv => accepts_of_reads hreads hv⟩
  · rintro ⟨hrequired, haccepts⟩
    exact exists_of_accepts hrequired haccepts

end Alert

end Triage
