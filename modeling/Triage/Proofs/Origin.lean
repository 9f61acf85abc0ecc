import Triage.Proofs.Independence
import Triage.Proofs.Walk

/-!
# Where an alert comes from

An alert is found in one of three ways (`Reading.FoundBy`): a policy recognises it and nothing
critical is missing; no policy recognises it and a model gives it; or a policy recognises it and a
model completes it. `foundBy_of_ofText` reads this off a run, whatever the backend did in it.

A model's alert is what `Cascade.ofReply` made of some reply, so anything that holds of all replies
holds of it. The policy that comes with it is the one of its type among the policies held, since a
consultation leaves the store alone (`Cascade.Gives.isGiven`).
-/

namespace Triage

namespace Cascade

variable {backend : Backend} {messages : Json} {text model : String} {models : List String}
  {alert : Alert} {attached : Option Policy} {policies : List Policy} {path : Path}
  {s s' : Session}

/-- Some reply of a model amounts to the alert. -/
def IsGiven (alert : Alert) : Prop := ∃ content, ofReply content = .success alert

/-- Such an alert has been checked as what the reply says, under the method of a model. -/
theorem IsGiven.checked (h : IsGiven alert) :
    ∃ content payload, Reply.object content = .ok payload ∧
      Alert.check (.object (payload.set "parse_method" (.string ParseMethod.model.word))) =
        .valid alert := by
  obtain ⟨content, h⟩ := h
  rw [ofReply] at h
  split at h
  · cases h
  · rename_i payload hpayload
    split at h
    · cases h
    · dsimp only at h
      split at h
      · rename_i checked hcheck
        cases h
        exact ⟨content, payload, hpayload, hcheck⟩
      · cases h

theorem isGiven_of_attempt {a : Attempt}
    (h : (attempt backend messages model).inSession s = (.ok a, s'))
    (ha : a.ending = .success alert) : IsGiven alert := by
  rw [attempt] at h
  obtain ⟨c, t, -, h⟩ := Run.bind_eq_ok_iff.mp h
  obtain ⟨reply, t', -, h⟩ := Run.bind_eq_ok_iff.mp h
  cases reply with
  | ok content =>
      cases h
      exact ⟨content, ha⟩
  | error e =>
      cases h
      cases ha

/-- An alert of an attempt is given, whichever of the models was asked. -/
theorem isGiven_of_attempts {made : List Attempt} {a : Attempt}
    (h : (attempts (attempt backend messages) models).inSession s = (.ok made, s'))
    (hmem : a ∈ made) (ha : a.ending = .success alert) : IsGiven alert := by
  induction models generalizing s made with
  | nil =>
      cases h
      cases hmem
  | cons model rest ih =>
      rw [attempts] at h
      obtain ⟨first, t, hfirst, h⟩ := Run.bind_eq_ok_iff.mp h
      split at h
      · cases h
        obtain rfl := List.mem_singleton.mp hmem
        exact isGiven_of_attempt hfirst ha
      · obtain ⟨others, t', hothers, h⟩ := Run.bind_eq_ok_iff.mp h
        cases h
        -- the alert is the first attempt's, or one of the models behind it gave it
        rcases List.mem_cons.mp hmem with rfl | hmem
        · exact isGiven_of_attempt hfirst ha
        · exact ih hothers hmem

theorem keeps_store_attempts (backend : Backend) (messages : Json) (models : List String) :
    Run.Keeps Session.store (attempts (attempt backend messages) models) := by
  have hclosed : Run.IsClosed backend (Run.Keeps Session.store) :=
    Run.isClosed_keeps (fun _ _ => rfl) (fun _ _ => rfl) (fun _ _ => rfl) (fun _ _ => rfl) backend
  exact hclosed.attempts messages models

/-- Up to the catalogue, too, a consultation leaves the store alone. -/
theorem store_of_listing {c : Client} {s₁ s₂ : Session}
    {f : List Request → Outcome (List ModelName)}
    {o : Except Failure (Except BackendError (List ModelName))}
    (hclient : Run.client.inSession s = (.ok c, s₁))
    (hlisted : (Run.call f).inSession s₁ = (o, s₂)) : s₂.store = s.store := by
  have hkeeps : Run.Keeps Session.store Run.client :=
    Run.keeps_client (fun _ _ => rfl) fun _ _ => rfl
  rw [Run.session_of_call hlisted, ← hkeeps.of_run hclient]

/-- The models, consulted about a text, give an alert. -/
def Gives (backend : Backend) (text : String) (s : Session) (alert : Alert)
    (attached : Option Policy) (model : String) : Prop :=
  ∃ (made : Consultation) (s' : Session), (consult backend text).inSession s = (.ok made, s') ∧
    made.verdict = .alert alert attached model

/-- **An alert that the models give is some reply's**, and the policy for it is the one of its type
among those held. -/
theorem Gives.isGiven (hheld : s.store.held = some (path, policies))
    (h : Gives backend text s alert attached model) :
    IsGiven alert ∧ attached = policies.find? fun p => p.alertType = alert.alertType := by
  obtain ⟨made, s', h, hv⟩ := h
  rw [consult] at h
  obtain ⟨c, s₁, hclient, h⟩ := Run.bind_eq_ok_iff.mp h
  obtain ⟨listed, s₂, hlisted, h⟩ := Run.bind_eq_ok_iff.mp h
  have hheld₂ : s₂.store.held = some (path, policies) := by
    rw [store_of_listing hclient hlisted, hheld]
  -- only a catalogue with some model in it leads to attempts, and so to an alert
  rcases listed with e | _ | ⟨first, rest⟩
  · cases h
    cases hv
  · cases h
    cases hv
  · rw [Run.inSession_bind_ok (Store.inSession_load_of_held hheld₂)] at h
    obtain ⟨attempted, s₃, hattempted, h⟩ := Run.bind_eq_ok_iff.mp h
    obtain ⟨_, s₄, hgone, h⟩ := Run.bind_eq_ok_iff.mp h
    have hheld₃ : s₃.store.held = some (path, policies) := by
      rw [(keeps_store_attempts _ _ _).of_run hattempted, hheld₂]
    rw [session_of_goOn hgone, Run.inSession_bind_ok (verdict_inSession hheld₃ attempted)] at h
    cases h
    obtain ⟨hlast, hattached⟩ := verdictBy_eq_alert_iff.mp hv
    exact ⟨isGiven_of_attempts hattempted (List.mem_of_getLast? hlast) rfl, hattached⟩

end Cascade

namespace Reading

variable {denied : List String} {recognised : Option Recognition} {i : Interpretation}
  {policies : List Policy} {text reason : String} {policy : Option Policy} {verdict : Verdict}
  {event : Event} {s s₁ s₂ s' : Session}

/-- How an alert is found, given what the policies recognise and the session in which the models are
then consulted. -/
inductive FoundBy (denied : List String) (backend : Backend) (text : String) (s : Session) :
    Option Recognition → Interpretation → Prop where
  /-- A policy recognises the alert, and nothing critical is missing. -/
  | policy {r : Recognition} :
      r.alert.alertType ∉ denied → r.policy.missingCritical r.alert.fields = [] →
      FoundBy denied backend text s (some r) ⟨r.alert, some r.policy, none⟩
  /-- No policy recognises the text, and a model gives the alert. -/
  | model {alert : Alert} {attached : Option Policy} {model : String} :
      Cascade.Gives backend text s alert attached model → alert.alertType ∉ denied →
      FoundBy denied backend text s none ⟨alert, attached, some model⟩
  /-- A policy recognises the alert, and a model gives what is missing. -/
  | completion {r : Recognition} {alert merged : Alert} {attached : Option Policy}
      {model : String} :
      r.alert.alertType ∉ denied → r.policy.missingCritical r.alert.fields ≠ [] →
      Cascade.Gives backend text s alert attached model → alert.alertType ∉ denied →
      Completion.merge r.policy alert = .ok merged →
      FoundBy denied backend text s (some r) ⟨merged, some r.policy, some model⟩

theorem byPolicy_eq_open (h : byPolicy denied recognised = .open policy reason) :
    (recognised = none ∧ policy = none) ∨
      ∃ r, recognised = some r ∧ policy = some r.policy ∧ r.alert.alertType ∉ denied ∧
        r.policy.missingCritical r.alert.fields ≠ [] := by
  cases recognised with
  | none =>
      cases h
      exact .inl ⟨rfl, rfl⟩
  | some r =>
      rw [byPolicy] at h
      split at h
      · cases h
      · rename_i hr
        split at h
        · cases h
        · rename_i hmissing
          cases h
          exact .inr ⟨r, rfl, rfl, hr, hmissing⟩

theorem byModel_eq_found (h : byModel denied policy reason verdict = .ok (.found i, event)) :
    ∃ alert attached model, verdict = .alert alert attached model ∧ alert.alertType ∉ denied ∧
      ((policy = none ∧ i = ⟨alert, attached, some model⟩) ∨
        ∃ p merged, policy = some p ∧ Completion.merge p alert = .ok merged ∧
          i = ⟨merged, some p, some model⟩) := by
  cases verdict with
  | none model said => cases h
  | failed said => cases h
  | alert alert attached model =>
      dsimp only [byModel] at h
      split at h
      · cases h
      · rename_i hd
        refine ⟨alert, attached, model, rfl, hd, ?_⟩
        cases policy with
        | none =>
            cases h
            exact .inl ⟨rfl, rfl⟩
        | some p =>
            obtain ⟨merged, hmerge, h⟩ := bind_eq_ok_iff.mp h
            cases h
            exact .inr ⟨p, merged, rfl, hmerge, rfl⟩

/-- **An alert is found in one of the three ways.** -/
theorem foundBy_of_ofText {backend : Backend} {given : Option (List String)}
    (hd : (denylist given).inSession s = (.ok denied, s₁))
    (hp : Store.load.inSession s₁ = (.ok policies, s₂))
    (h : (ofText backend given text).inSession s = (.ok (.found i), s')) :
    ∃ recognised, Recognition.ofText text policies = .ok recognised ∧
      FoundBy denied backend text s₂ recognised i := by
  have hf : (recognise text).inSession s₁ = (Recognition.ofText text policies, s₂) := by
    rw [recognise, Run.inSession_bind_ok hp, Run.inSession_lift]
  by_cases hdecided : IsDecided denied (Recognition.ofText text policies)
  · rw [inSession_ofText backend hd hf] at h
    rcases hrec : Recognition.ofText text policies with e | _ | r
    · rw [hrec] at h
      cases h
    · rw [hrec] at hdecided
      exact absurd hdecided id
    · rw [hrec, inSession_follow_ok, byPolicy] at h
      rw [hrec] at hdecided
      split at h
      · cases h
      · rename_i hr
        have hmissing := hdecided.resolve_left hr
        rw [hmissing] at h
        cases h
        exact ⟨some r, rfl, .policy hr hmissing⟩
  · obtain ⟨recognised, policy, reason, hrec, hopen, hrun⟩ := ofText_of_open hd hf hdecided
    refine ⟨recognised, hrec, ?_⟩
    rw [hrun] at h
    obtain ⟨made, t, hconsult, h⟩ := Run.bind_eq_ok_iff.mp h
    obtain ⟨⟨reading, event⟩, t', hmodel, h⟩ := Run.bind_eq_ok_iff.mp h
    cases h
    rw [Run.inSession_lift, Prod.mk.injEq] at hmodel
    obtain ⟨alert, attached, model, hverdict, hd', hfound⟩ := byModel_eq_found hmodel.1
    have hgives : Cascade.Gives backend text s₂ alert attached model :=
      ⟨made, t, hconsult, hverdict⟩
    rcases byPolicy_eq_open hopen with ⟨rfl, rfl⟩ | ⟨r, rfl, rfl, hr, hmissing⟩
    · rcases hfound with ⟨-, rfl⟩ | ⟨p, merged, hp, -⟩
      · exact .model hgives hd'
      · cases hp
    · rcases hfound with ⟨hnone, -⟩ | ⟨p, merged, hp, hmerge, rfl⟩
      · cases hnone
      · obtain rfl := Option.some.inj hp
        exact .completion hr hmissing hgives hd' hmerge

end Reading
end Triage
