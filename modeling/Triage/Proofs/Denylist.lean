import Triage.Proofs.Alert
import Triage.Proofs.Origin

/-!
# Disabled alert types

On each of the three ways in which an alert is found (`Reading.FoundBy`), the type of an alert is
compared with the denylist before the alert is returned.

On the first two ways the alert compared is the alert returned. On the third it is not: the alert
recognised and the alert that the model gives are compared, but the alert returned is of the type of
the policy, which may be neither. So a disabled type is returned exactly where a policy of that type
recognises its alerts under another one and has to have them completed (`denied_iff`).
-/

namespace Triage.Reading

variable {denied : List String} {recognised : Option Recognition} {i : Interpretation}
  {text : String} {s s₁ s₂ s' : Session}

/-- Only a completed alert can be of a disabled type, and it is where its policy is. -/
theorem FoundBy.mem_denied_iff {backend : Backend}
    (h : FoundBy denied backend text s recognised i) :
    i.alert.alertType ∈ denied ↔
      ∃ r, recognised = some r ∧ r.alert.alertType ∉ denied ∧
        r.policy.missingCritical r.alert.fields ≠ [] ∧ r.policy.alertType ∈ denied := by
  cases h with
  | @policy r hr hm =>
      constructor
      · intro hi
        exact absurd hi hr
      · rintro ⟨_, ⟨rfl⟩, _, hne, _⟩
        exact absurd hm hne
  | model _ ha =>
      constructor
      · intro hi
        exact absurd hi ha
      · rintro ⟨_, hnone, _⟩
        cases hnone
  | @completion r alert merged attached model hr hm _ _ hmerge =>
      -- here the type returned is neither of the two that were compared
      have htype : merged.alertType = r.policy.alertType := Completion.alertType_of_merge hmerge
      constructor
      · intro hi
        exact ⟨r, rfl, hr, hm, htype ▸ hi⟩
      · rintro ⟨_, ⟨rfl⟩, _, _, hd⟩
        exact htype ▸ hd

/-- **A disabled type is returned exactly where a policy of that type recognises the text under
another type and leaves something critical open.** -/
theorem denied_iff {backend : Backend} {given : Option (List String)}
    {policies : List Policy} (hd : (denylist given).inSession s = (.ok denied, s₁))
    (hp : Store.load.inSession s₁ = (.ok policies, s₂))
    (h : (ofText backend given text).inSession s = (.ok (.found i), s')) :
    i.alert.alertType ∈ denied ↔
      ∃ r, Recognition.ofText text policies = .ok (some r) ∧ r.alert.alertType ∉ denied ∧
        r.policy.missingCritical r.alert.fields ≠ [] ∧ r.policy.alertType ∈ denied := by
  obtain ⟨recognised, hrec, hfound⟩ := foundBy_of_ofText hd hp h
  rw [hfound.mem_denied_iff, hrec]
  simp only [Except.ok.injEq]

/-! ## A policy that recognises its alerts under another type -/

/-- A policy whose defaults rename the type, and which cannot do without the name of a service. -/
def renamer : Json := .object [
  ("alert_type", .string "full"),
  ("patterns", .array [.object [("pattern", .string "full")]]),
  ("extraction_defaults", .object [("alert_type", .string "low")]),
  ("critical_fields", .array [.string "service"])]

/-- What a model answers: an alert of the other type. -/
def answer : Json := .object [
  ("alert_type", .string "low"), ("project_id", .null), ("instance_name", .null),
  ("metric_labels", .object []), ("confidence", .int 1), ("missing_fields", .array [])]

/-- A backend with one model, which gives the answer. -/
def answering : Backend := .replying [.listing ["llama3"], .saying (answer.write .ascii)]

theorem found_renamer :
    ∃ (policy : Policy) (i : Interpretation) (s' : Session),
      Policy.check renamer = .valid policy ∧
      (ofText answering (some ["full"]) "full").inSession (.holding .nearby [policy]) =
        (.ok (.found i), s') ∧
      i.alert.alertType = "full" :=
  exists_found (fun _ i => i.alert.alertType) (by decide +kernel)

/-- The disabled type is returned all the same. -/
theorem denied_renamer :
    ∃ (policy : Policy) (i : Interpretation) (s' : Session),
      Policy.check renamer = .valid policy ∧
      (ofText answering (some ["full"]) "full").inSession (.holding .nearby [policy]) =
        (.ok (.found i), s') ∧
      i.alert.alertType ∈ ["full"] := by
  obtain ⟨policy, i, s', hpolicy, hrun, htype⟩ := found_renamer
  exact ⟨policy, i, s', hpolicy, hrun, by rw [htype]; exact List.mem_singleton.mpr rfl⟩

theorem denied_iff_renamer :
    ∃ (policy : Policy) (i : Interpretation) (s' : Session),
      (ofText answering (some ["full"]) "full").inSession (.holding .nearby [policy]) =
        (.ok (.found i), s') ∧
      (i.alert.alertType ∈ ["full"] ↔
        ∃ r, Recognition.ofText "full" [policy] = .ok (some r) ∧ r.alert.alertType ∉ ["full"] ∧
          r.policy.missingCritical r.alert.fields ≠ [] ∧ r.policy.alertType ∈ ["full"]) := by
  obtain ⟨policy, i, s', _, hrun, _⟩ := found_renamer
  have hload : Store.load.inSession (.holding .nearby [policy]) =
      (.ok [policy], .holding .nearby [policy]) := Store.inSession_load_of_held rfl
  exact ⟨policy, i, s', hrun, denied_iff (Run.inSession_pure _ _) hload hrun⟩

end Triage.Reading
