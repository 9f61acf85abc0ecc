import Triage.Interpretation
import Triage.Proofs.Alert
import Triage.Proofs.Consultation

/-!
# Interpreting ends with a reading or with a fault of the policies

What the backend replies, and whether it replies at all, is no failure of a run but in one case: it
can list a model whose name cannot be written, and the run breaks down when it comes to that model
(`Reading.ComesTo`). Otherwise it ends with a reading, unless the policies are to blame. The argument
goes by the stages of `Reading.ofText`. Recognising fails only through the fault of a policy, a
consultation fails only at such a model (`Cascade.consult_answers`), and what is made of its verdict
is a completion, which again fails only through the fault of a policy. A reading that finds nothing
says why (`Reading.IsAnswer`).
-/

namespace Triage.Reading

variable {denied : List String} {reason : String} {reading : Reading} {event : Event}

/-- Something was found. -/
def matched : Reading → Bool
  | found _ => true
  | nothing _ _ => false

/-- The alert that was found, if one was. -/
def alert? : Reading → Option Alert
  | found i => some i.alert
  | nothing _ _ => none

/-- The reason why nothing was found, if nothing was. -/
def error? : Reading → Option String
  | found _ => none
  | nothing reason _ => some reason

/-- A reading as it is answered: with an alert or with a reason, and never with an empty one. -/
structure IsAnswer (r : Reading) : Prop where
  alert : r.matched = true ↔ r.alert?.isSome = true
  error : r.matched = true ↔ r.error? = none
  reason : r.matched = false → ∃ reason, r.error? = some reason ∧ reason ≠ ""

theorem isAnswer_found (i : Interpretation) : (found i).IsAnswer :=
  ⟨by simp [matched, alert?], by simp [matched, error?], by simp [matched]⟩

theorem isAnswer_nothing (h : reason ≠ "") (model : Option String) :
    (nothing reason model).IsAnswer :=
  ⟨by simp [matched, alert?], by simp [matched, error?], fun _ => ⟨reason, rfl, h⟩⟩

theorem disabled_ne (alertType : String) : disabled alertType ≠ "" := by
  rw [disabled, ne_eq, String.append_eq_empty_iff, String.append_eq_empty_iff]
  rintro ⟨⟨h, _⟩, _⟩
  simp [toString] at h

theorem uninterpreted_ne (policies models : String) : uninterpreted policies models ≠ "" := by
  unfold uninterpreted
  generalize (if models = "" then "no match" else models) = said
  dsimp only
  simp only [ne_eq, String.append_eq_empty_iff]
  rintro ⟨⟨⟨h, _⟩, _⟩, _⟩
  simp [toString] at h

/-- What the policies alone settle is answered. -/
theorem isAnswer_of_byPolicy {recognised : Option Recognition}
    (h : byPolicy denied recognised = .settled reading event) : reading.IsAnswer := by
  cases recognised with
  | none => cases h
  | some r =>
      rw [byPolicy] at h
      split at h
      · cases h
        exact isAnswer_nothing (disabled_ne _) none
      · split at h
        · cases h
          exact isAnswer_found _
        · cases h

/-- A verdict is answered, or the policy to be completed is at fault. -/
theorem byModel_answers (denied : List String) (policy : Option Policy) (reason : String)
    (verdict : Verdict) :
    (∃ reading event, byModel denied policy reason verdict = .ok (reading, event) ∧
      reading.IsAnswer) ∨
    ∃ fault : PolicyFault, byModel denied policy reason verdict = .error (.policies fault) := by
  cases verdict with
  | none model said =>
      exact .inl ⟨_, _, rfl, isAnswer_nothing (uninterpreted_ne reason said) _⟩
  | failed said => exact .inl ⟨_, _, rfl, isAnswer_nothing (uninterpreted_ne reason said) none⟩
  | alert alert attached model =>
      dsimp only [byModel]
      by_cases hd : alert.alertType ∈ denied
      · rw [if_pos hd]
        exact .inl ⟨_, _, rfl, isAnswer_nothing (disabled_ne _) none⟩
      · rw [if_neg hd]
        cases policy with
        | none => exact .inl ⟨_, _, rfl, isAnswer_found _⟩
        | some p =>
            cases hm : Completion.merge p alert with
            | error e =>
                obtain ⟨fault, rfl⟩ := Completion.policies_of_merge hm
                exact .inr ⟨fault, by simp only [hm]; rfl⟩
            | ok merged => exact .inl ⟨_, _, by simp only [hm]; rfl, isAnswer_found _⟩

variable {backend : Backend} {given : Option (List String)} {text : String} {path : Path}
  {policies : List Policy} {c : Client} {s s₁ s₂ : Session}

/-- A run comes to a model whose name cannot be written: no policy settles the text, and its
consultation comes to that model. -/
structure ComesTo (c : Client) (backend : Backend) (denied : List String) (policies : List Policy)
    (text : String) (past : List Request) (model : ModelName) : Prop where
  opened : ∃ (recognised : Option Recognition) (policy : Option Policy) (reason : String),
    Recognition.ofText text policies = .ok recognised ∧
      byPolicy denied recognised = .open policy reason
  comes : Cascade.ComesTo c backend (Prompt.messages text policies) past model

/-- A run ends in one of the two ways it is meant to end in: with an answer, or through the fault of
a policy. -/
def Ends (result : Except Failure Reading) : Prop :=
  (∃ reading : Reading, result = .ok reading ∧ reading.IsAnswer) ∨
    ∃ fault : PolicyFault, result = .error (.policies fault)

theorem ends_ok {reading : Reading} (h : reading.IsAnswer) : Ends (.ok reading) :=
  .inl ⟨reading, rfl, h⟩

theorem ends_policies (fault : PolicyFault) : Ends (.error (.policies fault)) := .inr ⟨fault, rfl⟩

theorem not_ends_breakdown (b : Breakdown) : ¬ Ends (.error (.breakdown b)) := by
  rintro (⟨reading, h, -⟩ | ⟨fault, h⟩)
  · cases h
  · cases h

section Ending

variable (text : String) (hheld : s.store.held = some (path, policies))
  (hd : (denylist given).inSession s = (.ok denied, s₁))
  (hc : Run.client.inSession s₁ = (.ok c, s₂)) (ha : c.HasAddress)
  (ht : c.temperature.isFinite = true) (hr : backend.Replies)

include hheld hd

theorem held_of_denylist : s₁.store.held = some (path, policies) := by
  have hkeeps : Run.Keeps Session.store (denylist given) := by
    cases given with
    | some denied => exact Run.keeps_pure denied
    | none => exact Run.keeps_bind (Run.keeps_config fun _ _ => rfl) fun _ => Run.keeps_pure _
  rw [hkeeps.of_run hd, hheld]

include hc ha ht hr

/-- Unless it comes to such a model, a run ends as it is meant to, whatever the backend replies. -/
theorem ends_of_not_comesTo
    (hcomes : ∀ model, ¬ ComesTo c backend denied policies text s₂.requests model) :
    Ends ((ofText backend given text).inSession s).1 := by
  have hheld' := held_of_denylist hheld hd
  rw [ofText, Run.inSession_bind_ok hd,
    Run.inSession_bind_ok (Store.inSession_load_of_held hheld')]
  cases hrec : Recognition.ofText text policies with
  | error e =>
      obtain ⟨fault, rfl⟩ := Recognition.policies_of_ofText hrec
      rw [Run.inSession_bind_error (Run.inSession_lift _ _)]
      exact ends_policies fault
  | ok recognised =>
      rw [Run.inSession_bind_ok (Run.inSession_lift _ _)]
      cases hb : byPolicy denied recognised with
      | settled reading event => exact ends_ok (isAnswer_of_byPolicy hb)
      | «open» policy reason =>
          -- from here on a model is needed, and the backend comes in
          obtain ⟨made, t, hconsult⟩ := Cascade.consult_answers text hheld' hc ha ht hr
            fun model hmodel => hcomes model ⟨⟨recognised, policy, reason, hrec, hb⟩, hmodel⟩
          dsimp only
          rw [Run.inSession_bind_ok hconsult]
          rcases byModel_answers denied policy reason made.verdict with
            ⟨reading, event, hmodel, hanswer⟩ | ⟨fault, hmodel⟩
          · rw [hmodel]
            exact ends_ok hanswer
          · rw [hmodel]
            exact ends_policies fault

/-- A run that comes to such a model breaks down. -/
theorem ofText_of_comesTo (model : ModelName)
    (hmodel : ComesTo c backend denied policies text s₂.requests model) :
    ((ofText backend given text).inSession s).1 =
      .error (.breakdown (.unencodable (Text.Utf8.encodeFault (Client.chatFront model)))) := by
  obtain ⟨⟨recognised, policy, reason, hrec, hb⟩, hcomes⟩ := hmodel
  have hheld' := held_of_denylist hheld hd
  obtain ⟨t, hconsult⟩ := Cascade.consult_of_comesTo text hheld' hc ha ht hr hcomes
  rw [ofText, Run.inSession_bind_ok hd,
    Run.inSession_bind_ok (Store.inSession_load_of_held hheld'), hrec,
    Run.inSession_bind_ok (Run.inSession_lift _ _), hb]
  dsimp only
  rw [Run.inSession_bind_error hconsult]

/-- **A run ends with an answer or through the fault of a policy, whatever the backend replies,
exactly where it comes to no model whose name cannot be written.** -/
theorem ends_iff :
    (Ends ((ofText backend given text).inSession s).1 ↔
      ∀ model, ¬ ComesTo c backend denied policies text s₂.requests model) ∧
    ∀ model, ComesTo c backend denied policies text s₂.requests model →
      ((ofText backend given text).inSession s).1 =
        .error (.breakdown (.unencodable (Text.Utf8.encodeFault (Client.chatFront model)))) := by
  have hbreaks := ofText_of_comesTo text hheld hd hc ha ht hr
  refine ⟨⟨fun hends model hmodel => ?_, ends_of_not_comesTo text hheld hd hc ha ht hr⟩, hbreaks⟩
  rw [hbreaks model hmodel] at hends
  exact not_ends_breakdown _ hends

end Ending

/-- The preferred model declines, and the other one, which cannot be asked, is not needed. -/
theorem ends_iff_declining :
    (∀ model, ¬ ComesTo .nearby (Cascade.halvedListed Cascade.declining) [] [] "disk full" []
      model) ∧
    Ends ((ofText (Cascade.halvedListed Cascade.declining) (some []) "disk full").inSession
      (.holding .nearby [])).1 := by
  have hcomes : ∀ model, ¬ ComesTo .nearby (Cascade.halvedListed Cascade.declining) [] []
      "disk full" [] model := by
    rintro model ⟨-, available, hmodels, hstops⟩
    rw [show Cascade.halvedListed Cascade.declining [] Client.nearby.catalogueRequest =
      .answer 200 Cascade.halvedCatalogue from rfl, Cascade.modelsBy_halvedCatalogue] at hmodels
    obtain rfl := Except.ok.inj hmodels
    rw [Cascade.candidates_eq, Cascade.eraseDups_halved] at hstops
    exact Cascade.not_stopsAt_declining model hstops
  refine ⟨hcomes, (ends_iff "disk full" rfl (Run.inSession_pure _ _)
    (Run.inSession_client_of_some rfl) Client.hasAddress_nearby rfl
    Cascade.replies_declining).1.mpr hcomes⟩

/-- **A name that cannot be written can end a run in neither way.** -/
theorem breaks_off_halvedListed :
    (Cascade.halvedListed (.answer 404 "")).Replies ∧
    ¬ Ends ((ofText (Cascade.halvedListed (.answer 404 "")) (some []) "disk full").inSession
      (.holding .nearby [])).1 := by
  have hreplies : (Cascade.halvedListed (.answer 404 "")).Replies :=
    Cascade.replies_halvedListed (by simp)
  have hheld : (Session.holding .nearby []).store.held = some ([], []) := rfl
  have hmodel : ComesTo .nearby (Cascade.halvedListed (.answer 404 "")) [] [] "disk full" []
      Cascade.halfName := ⟨⟨none, none, unrecognised, rfl, rfl⟩, Cascade.comesTo_halvedListed⟩
  refine ⟨hreplies, fun hends => ?_⟩
  rw [ofText_of_comesTo "disk full" hheld (Run.inSession_pure _ _) (Run.inSession_client_of_some rfl)
    Client.hasAddress_nearby rfl hreplies Cascade.halfName hmodel] at hends
  exact not_ends_breakdown _ hends

end Triage.Reading
