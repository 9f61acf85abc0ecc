import Triage.Proofs.Acceptance
import Triage.Proofs.Recognition

/-!
# What the record of a policy is composed of

A policy makes a record of what a pattern has extracted in four layers: the extracted fields, under
them the policy's defaults, under these the fallbacks of the fields that an alert cannot do without,
and at the bottom the policy's own type. An absent default and one of null are not alike in this: a
fallback stands in for both, the policy's type only for an absent one, and a null that nothing stands
in for stays in the record (`Extraction.IsComposed`).

All the layers below the defaults are accepted by their fields, so a policy can only be at fault for a
default or an extracted value that its own field does not accept (`Extraction.Fits.exists_alert`).
-/

namespace Triage

open Schema Checked

/-! ## The layers of a record -/

namespace Extraction

open Alert

variable {p : Policy} {extracted : Record} {name : String} {v : Json}

/-- What the extracted fields and the defaults give a name together. -/
def given (p : Policy) (extracted : Record) (name : String) : Option Json :=
  (extracted.get? name).or (p.extractionDefaults.get? name)

theorem given_of_extracted (h : extracted.get? name = some v) : given p extracted name = some v := by
  unfold given
  rw [h, Option.some_or]

theorem given_of_not_extracted (h : extracted.get? name = none) :
    given p extracted name = p.extractionDefaults.get? name := by
  unfold given
  rw [h, Option.none_or]

/-- The type is given or the policy's. -/
theorem get?_record_alertType (hn : extracted.names.Nodup) :
    (record p extracted).get? "alert_type" =
      some ((given p extracted "alert_type").getD (.string p.alertType)) := by
  have hfallback : fallbacks.get? "alert_type" = none := by decide
  rw [record, Record.get?_set, if_neg (by decide), Record.get?_setDefault, if_pos rfl,
    get?_fill (by decide), hfallback, Option.none_or, ite_self, Record.get?_overlay hn]
  rfl

theorem get?_record_method (p : Policy) (extracted : Record) :
    (record p extracted).get? "parse_method" = some (.string "policy") := by
  rw [record, Record.get?_set, if_pos rfl]
  rfl

/-- Any other name holds what it is given, or its fallback where that is null or nothing. -/
theorem get?_record_of_not_pinned (hn : extracted.names.Nodup) (hname : name ∉ pinnedNames) :
    (record p extracted).get? name =
      if ((given p extracted name).getD .null).isNull
      then (fallbacks.get? name).or (given p extracted name)
      else given p extracted name := by
  have htype : name ≠ "alert_type" := fun heq => hname (heq ▸ by decide)
  have hmethod : name ≠ "parse_method" := fun heq => hname (heq ▸ by decide)
  have hfallbacks : fallbacks.names.Nodup := by decide
  have hoverlay : (p.extractionDefaults.overlay extracted).get? name = given p extracted name :=
    Record.get?_overlay hn p.extractionDefaults name
  rw [record, Record.get?_set, if_neg hmethod, Record.get?_setDefault, if_neg htype,
    get?_fill hfallbacks, Record.getD, hoverlay]

theorem not_pinned_of_ne (htype : name ≠ "alert_type") (hmethod : name ≠ "parse_method") :
    name ∉ pinnedNames := by
  simp [pinnedNames, htype, hmethod]

/-- What is given and is not null is held. -/
theorem get?_record_of_given (hn : extracted.names.Nodup) (hmethod : name ≠ "parse_method")
    (hv : given p extracted name = some v) (hnull : v.isNull = false) :
    (record p extracted).get? name = some v := by
  by_cases htype : name = "alert_type"
  · subst htype
    rw [get?_record_alertType hn, hv, Option.getD_some]
  · rw [get?_record_of_not_pinned hn (not_pinned_of_ne htype hmethod), hv, Option.getD_some, hnull,
      if_neg Bool.false_ne_true]

/-- A name holds the same in two records of a policy where it is given the same. -/
theorem get?_record_congr {other : Record} (hn : extracted.names.Nodup) (hn' : other.names.Nodup)
    (h : given p extracted name = given p other name) :
    (record p extracted).get? name = (record p other).get? name := by
  by_cases hmethod : name = "parse_method"
  · rw [hmethod, get?_record_method, get?_record_method]
  by_cases htype : name = "alert_type"
  · subst htype
    rw [get?_record_alertType hn, get?_record_alertType hn', h]
  · have hname : name ∉ pinnedNames := not_pinned_of_ne htype hmethod
    rw [get?_record_of_not_pinned hn hname, get?_record_of_not_pinned hn' hname, h]

end Extraction

end Triage
