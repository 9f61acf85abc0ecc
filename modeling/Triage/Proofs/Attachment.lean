import Triage.Proofs.Composition
import Triage.Proofs.Origin

/-!
# The policy attached to an alert

An alert and the policy attached to it are of one type wherever a model was needed: the policy is
then looked up by the type of the alert, or the type is set to that of the policy. Where a policy
recognised the alert alone they need not be. The type is the policy's only by default, and what the
pattern captures or the policy's own defaults set comes first (`named`).

An alert without a policy is of a type that no policy has.
-/

namespace Triage

namespace Recognition

variable {text : String} {policies : List Policy} {p : Policy} {captured : Record} {r : Recognition}

theorem nodup_of_capture (h : capture p text = .ok (some captured)) : captured.names.Nodup := by
  rw [capture] at h
  split at h
  · generalize p.patterns = patterns at h
    induction patterns with
    | nil => cases h
    | cons q rest ih =>
        rw [firstCapture] at h
        obtain ⟨found, happly, h⟩ := bind_eq_ok_iff.mp h
        cases found with
        | none => exact ih h
        | some fields =>
            cases h
            exact Extraction.nodup_of_apply happly
  · cases h

/-- The type that captured fields or else a policy's defaults give an alert, if one of them does. -/
def named (p : Policy) (captured : Record) : Option Json :=
  (captured.get? "alert_type").or (p.extractionDefaults.get? "alert_type")

/-- **The type of a recognised alert is the one named, or else the policy's.** -/
theorem alertType_of_check {alert : Alert} (hn : captured.names.Nodup)
    (h : Alert.check (.object (Extraction.record p captured)) = .valid alert) :
    Json.string alert.alertType = (named p captured).getD (.string p.alertType) := by
  have htype := (Alert.reads_of_checkFields h).alertType
  rw [Extraction.get?_record_alertType hn] at htype
  exact (Option.some.inj htype).symm

/-- A recognised alert is made of what its policy captures. -/
theorem captured_of_ofText (h : ofText text policies = .ok (some r)) :
    r.policy ∈ policies ∧ ∃ captured, capture r.policy text = .ok (some captured) ∧
      Alert.check (.object (Extraction.record r.policy captured)) = .valid r.alert := by
  induction policies with
  | nil => cases h
  | cons p rest ih =>
      rw [ofText_cons] at h
      split at h
      · cases h
      · obtain ⟨hmem, hcaptured⟩ := ih h
        exact ⟨List.mem_cons_of_mem p hmem, hcaptured⟩
      · rename_i captured hcapture
        obtain ⟨alert, halert, heq⟩ := ok_of_map h
        obtain rfl := Option.some.inj heq
        exact ⟨List.mem_cons_self, captured, hcapture, Checked.orFail_eq_ok_iff.mp halert⟩

end Recognition

namespace Reading

variable {policies : List Policy} {i : Interpretation} {text : String} {s s₁ s₂ s' : Session}

/-- How the policy of what is found in a text goes with the alert. -/
structure IsAttached (text : String) (policies : List Policy) (i : Interpretation) : Prop where
  /-- The policy is one of those held. -/
  mem : ∀ p, i.policy = some p → p ∈ policies
  /-- Where a model was needed, the alert is of the policy's type. -/
  modelled : ∀ p, i.policy = some p → i.model.isSome = true → i.alert.alertType = p.alertType
  /-- Where none was, a policy has recognised the text: the alert is of the type that is named by the
  captured fields, else by the policy's defaults, and of the policy's type where neither names one. -/
  recognised : i.model = none →
    ∃ p captured, i.policy = some p ∧ Recognition.capture p text = .ok (some captured) ∧
      Json.string i.alert.alertType =
        (Recognition.named p captured).getD (.string p.alertType)
  /-- Without a policy the alert is of a type that no policy held has. -/
  unattached : i.policy = none → ∀ p ∈ policies, p.alertType ≠ i.alert.alertType

theorem FoundBy.isAttached {denied : List String} {backend : Backend} {path : Path}
    {recognised : Option Recognition}
    (hheld : s.store.held = some (path, policies))
    (hrec : Recognition.ofText text policies = .ok recognised)
    (h : FoundBy denied backend text s recognised i) : IsAttached text policies i := by
  cases h with
  | @policy r _ _ =>
      obtain ⟨hmem, captured, hcapture, hcheck⟩ := Recognition.captured_of_ofText hrec
      have htype := Recognition.alertType_of_check (Recognition.nodup_of_capture hcapture) hcheck
      exact
        { mem := by
            rintro p ⟨rfl⟩
            exact hmem
          modelled := fun _ _ hmodel => nomatch hmodel
          recognised := fun _ => ⟨r.policy, captured, rfl, hcapture, htype⟩
          unattached := fun hnone => nomatch hnone }
  | model hgives _ =>
      -- the policy was looked up by the type, and both parts are what the lookup says
      obtain ⟨-, rfl⟩ := hgives.isGiven hheld
      exact
        { mem := fun p hp => List.mem_of_find?_eq_some hp
          modelled := fun p hp _ => by simpa [eq_comm] using List.find?_some hp
          recognised := fun hnone => nomatch hnone
          unattached := fun hnone p hp => by simpa using List.find?_eq_none.mp hnone p hp }
  | completion _ _ _ _ hmerge =>
      exact
        { mem := by
            rintro p ⟨rfl⟩
            exact (Recognition.captured_of_ofText hrec).1
          modelled := by
            rintro p ⟨rfl⟩ _
            exact Completion.alertType_of_merge hmerge
          recognised := fun hnone => nomatch hnone
          unattached := fun hnone => nomatch hnone }

/-- **The attached policy is of the alert's type, unless it recognised the text alone and another
type is named**; and without a policy there is none of that type. -/
theorem isAttached_of_ofText {backend : Backend} {given : Option (List String)}
    {denied : List String} (hd : (denylist given).inSession s = (.ok denied, s₁))
    (hp : Store.load.inSession s₁ = (.ok policies, s₂))
    (h : (ofText backend given text).inSession s = (.ok (.found i), s')) :
    IsAttached text policies i := by
  obtain ⟨recognised, hrec, hfound⟩ := foundBy_of_ofText hd hp h
  obtain ⟨path, hheld⟩ := Store.held_of_load hp
  exact hfound.isAttached hheld hrec

/-! ## A policy whose defaults name another type -/

/-- Nothing is critical for this policy, so what it recognises is returned as it is. -/
def relabelling : Json := .object [
  ("alert_type", .string "disk_full"),
  ("patterns", .array [.object [("pattern", .string "disk full")]]),
  ("extraction_defaults", .object [("alert_type", .string "storage_low")])]

theorem found_relabelling :
    ∃ (policy : Policy) (i : Interpretation) (s' : Session),
      Policy.check relabelling = .valid policy ∧
      (ofText (.replying []) (some []) "disk full").inSession (.holding .nearby [policy]) =
        (.ok (.found i), s') ∧
      (i.alert.alertType, i.policy.map Policy.alertType) = ("storage_low", some "disk_full") :=
  exists_found (fun _ i => (i.alert.alertType, i.policy.map Policy.alertType))
    (by decide +kernel)

/-- The alert is not of the type of the policy attached. -/
theorem relabelled :
    ∃ (policy attached : Policy) (i : Interpretation) (s' : Session),
      Policy.check relabelling = .valid policy ∧
      (ofText (.replying []) (some []) "disk full").inSession (.holding .nearby [policy]) =
        (.ok (.found i), s') ∧
      i.policy = some attached ∧ i.alert.alertType ≠ attached.alertType := by
  obtain ⟨policy, i, s', hpolicy, hrun, htypes⟩ := found_relabelling
  obtain ⟨htype, hattached⟩ := Prod.mk.inj htypes
  obtain ⟨attached, hsome, hname⟩ := Option.map_eq_some_iff.mp hattached
  refine ⟨policy, attached, i, s', hpolicy, hrun, hsome, ?_⟩
  rw [htype, hname]
  decide

theorem isAttached_relabelling :
    ∃ (policy : Policy) (i : Interpretation) (s' : Session),
      (ofText (.replying []) (some []) "disk full").inSession (.holding .nearby [policy]) =
        (.ok (.found i), s') ∧
      IsAttached "disk full" [policy] i := by
  obtain ⟨policy, i, s', -, hrun, -⟩ := found_relabelling
  have hload : Store.load.inSession (.holding .nearby [policy]) =
      (.ok [policy], .holding .nearby [policy]) := Store.inSession_load_of_held rfl
  exact ⟨policy, i, s', hrun, isAttached_of_ofText (Run.inSession_pure _ _) hload hrun⟩

end Reading
end Triage
