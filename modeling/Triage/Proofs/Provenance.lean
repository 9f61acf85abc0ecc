import Triage.Proofs.Analysis
import Triage.Proofs.Attachment
import Triage.Proofs.Survey

/-!
# Provenance cannot be forged

Defaults, captured fields and the payload of a model may all say how an alert was interpreted. None of
them is believed: in each of the three records that are checked as alerts the method is set last
(`Alert.parseMethod_of_check`). So it is enough to go through the ways in which something is found
(`Reading.foundFor_of_conclusion`), and in each of them the method, the model named and the requests made
tell the same.
-/

namespace Triage

/-! ## The method is set last -/

/-- **Whatever else a record says, an alert has the method that was set last.** -/
theorem Alert.parseMethod_of_check {r : Record} {m : ParseMethod} {alert : Alert}
    (h : check (.object (r.set "parse_method" (.string m.word))) = .valid alert) :
    alert.parseMethod = m := by
  obtain ⟨v, hv, hcheck⟩ := Schema.required_eq_valid_iff.mp (reads_of_checkFields h).parseMethod
  rw [Record.get?_set, if_pos rfl] at hv
  obtain rfl := Option.some.inj hv
  rw [ParseMethod.check_word] at hcheck
  exact (Checked.valid.inj hcheck).symm

theorem Recognition.parseMethod_of_ofText {text : String} {policies : List Policy} {r : Recognition}
    (h : ofText text policies = .ok (some r)) : r.alert.parseMethod = .policy := by
  obtain ⟨-, captured, -, hcheck⟩ := captured_of_ofText h
  exact Alert.parseMethod_of_check hcheck

theorem Completion.parseMethod_of_merge {policy : Policy} {alert merged : Alert}
    (h : merge policy alert = .ok merged) : merged.parseMethod = .model :=
  Alert.parseMethod_of_check (Checked.orFail_eq_ok_iff.mp h)

theorem Cascade.IsGiven.parseMethod {alert : Alert} (h : IsGiven alert) :
    alert.parseMethod = .model := by
  obtain ⟨content, payload, -, hcheck⟩ := h.checked
  exact Alert.parseMethod_of_check hcheck

namespace Reading

variable {backend : Backend} {given : Option (List String)} {text : String} {v : Survey}
  {i : Interpretation} {event : Event} {s s' t : Session}

/-! ## The ways in which something is found -/

theorem byPolicy_eq_found {denied : List String} {recognised : Option Recognition}
    (h : byPolicy denied recognised = .settled (.found i) event) :
    ∃ r, recognised = some r ∧ i = ⟨r.alert, some r.policy, none⟩ := by
  cases recognised with
  | none => cases h
  | some r =>
      rw [byPolicy] at h
      split at h
      · cases h
      · split at h
        · cases h
          exact ⟨r, rfl, rfl⟩
        · cases h

/-- What is found is the policies' or a model's: either it is of their method and nobody has been
asked, or it is of the model's that the last attempt succeeded with. -/
inductive FoundFor (v : Survey) (i : Interpretation) : Prop where
  | policies : i.alert.parseMethod = .policy → i.model = none → v.made.attempts = [] → FoundFor v i
  | model {model : String} {alert : Alert} :
      i.alert.parseMethod = .model → i.model = some model →
      v.made.attempts.getLast? = some ⟨model, .success alert⟩ → FoundFor v i

/-- **What is concluded from a survey is of the method that it really comes by.** -/
theorem foundFor_of_conclusion (hsurvey : (survey backend given text).inSession s = (.ok v, t))
    (h : conclusion v = .ok (.found i, event)) : FoundFor v i := by
  obtain ⟨⟨policies, hrec⟩, hnobody⟩ := recognised_of_survey hsurvey
  have htold := (isRecorded_of_survey hsurvey).told
  rw [conclusion] at h
  split at h
  · rename_i reading event' hsettled
    cases h
    obtain ⟨r, hr, rfl⟩ := byPolicy_eq_found hsettled
    exact .policies (Recognition.parseMethod_of_ofText (hr ▸ hrec)) rfl
      (congrArg Consultation.attempts (hnobody _ _ hsettled))
  · obtain ⟨alert, attached, model, hverdict, -, hfound⟩ := byModel_eq_found h
    rw [hverdict] at htold
    obtain ⟨hlast, hgiven⟩ := htold
    rcases hfound with ⟨-, rfl⟩ | ⟨policy, merged, -, hmerge, rfl⟩
    · exact .model hgiven.parseMethod rfl hlast
    · exact .model (Completion.parseMethod_of_merge hmerge) rfl hlast

/-! ## What an interpretation says about itself -/

/-- What an interpretation says about how it was come by agrees with what has taken place. -/
structure IsTagged (v : Survey) (s s' : Session) (i : Interpretation) : Prop where
  /-- It is the policies' exactly where no model is named. -/
  policy_iff : i.alert.parseMethod = .policy ↔ i.model = none
  /-- No model is named exactly where no chat was asked for. -/
  silent_iff : ∃ asked, s'.requests = s.requests ++ asked ∧
    (i.model = none ↔ ∀ r ∈ asked, ¬ r.IsChat)
  /-- It is a model's exactly where the model named made the last attempt, with success. -/
  model_iff : i.alert.parseMethod = .model ↔
    ∃ model alert, i.model = some model ∧
      v.made.attempts.getLast? = some ⟨model, .success alert⟩

/-- Of the requests on record there is a chat exactly where there was an attempt. -/
theorem exists_asked_of_isRecorded {made : Consultation} (h : made.IsRecorded s s') :
    ∃ asked, s'.requests = s.requests ++ asked ∧
      (made.attempts = [] ↔ ∀ r ∈ asked, ¬ r.IsChat) := by
  obtain ⟨front, chats, hrequests, hfront, hchats⟩ := h.requests
  refine ⟨front ++ chats, hrequests, ?_⟩
  generalize made.attempts = attempts at hchats ⊢
  cases hchats with
  | nil => rw [List.append_nil]; exact ⟨fun _ => hfront, fun _ => rfl⟩
  | @cons a r attempts rest hr _ =>
      refine ⟨fun hnil => absurd hnil (List.cons_ne_nil a attempts), fun hnone => ?_⟩
      exact absurd ⟨a.model, hr⟩ (hnone r (List.mem_append_right front List.mem_cons_self))

theorem isTagged_of_foundFor (hrecord : v.made.IsRecorded s s') (h : FoundFor v i) :
    IsTagged v s s' i := by
  obtain ⟨asked, hrequests, hchats⟩ := exists_asked_of_isRecorded hrecord
  cases h with
  | policies hmethod hmodel hnobody =>
      exact
        { policy_iff := by simp [hmethod, hmodel]
          silent_iff := ⟨asked, hrequests, by simp [hmodel, ← hchats, hnobody]⟩
          model_iff := by simp [hmethod, hmodel] }
  | model hmethod hmodel hlast =>
      have hsome : v.made.attempts ≠ [] := by
        rintro hnil
        rw [hnil] at hlast
        cases hlast
      exact
        { policy_iff := by simp [hmethod, hmodel]
          silent_iff := ⟨asked, hrequests, by simp [hmodel, ← hchats, hsome]⟩
          model_iff := by simp [hmethod, hmodel, hlast] }

/-- What is read in a session is tagged. -/
theorem isTagged_of_ofText (h : (ofText backend given text).inSession s = (.ok (.found i), s')) :
    ∃ v t, (survey backend given text).inSession s = (.ok v, t) ∧ IsTagged v s s' i := by
  obtain ⟨v, t, event, hsurvey, hconclusion, rfl⟩ := survey_of_ofText h
  have htagged : IsTagged v s t i :=
    isTagged_of_foundFor (isRecorded_of_survey hsurvey) (foundFor_of_conclusion hsurvey hconclusion)
  exact ⟨v, t, hsurvey, htagged.policy_iff, htagged.silent_iff, htagged.model_iff⟩

end Reading

/-! ## Reports -/

/-- A provenance tells of an interpretation what it tells of itself. -/
structure Provenance.Tells (p : Provenance) (i : Interpretation) : Prop where
  parseMethod : p.parseMethod = i.alert.parseMethod
  alertType : p.alertType = i.alert.alertType
  modelUsed : p.modelUsed = i.model

namespace Analysis

/-- In a session nothing is said about where an alert comes from that has not taken place. -/
structure IsUnforged (backend : Backend) (s : Session) : Prop where
  /-- What is read is tagged as the survey of the same text in the same session has it. -/
  reading : ∀ (given : Option (List String)) (text : String) (i : Interpretation) (s' : Session),
    (Reading.ofText backend given text).inSession s = (.ok (.found i), s') →
    ∃ v t, (Reading.survey backend given text).inSession s = (.ok v, t) ∧
      Reading.IsTagged v s s' i
  /-- A report is on what is read, and its provenance tells the same. -/
  report : ∀ (call : Call) (a : Analysis) (r : Report) (s' : Session),
    (call.run backend).inSession s = (.ok a, s') → a.result = .ok r →
    ∃ i t v u, call.read backend s = (.ok (.found i), t) ∧
      (Reading.survey backend call.denied call.text).inSession (call.entered s) = (.ok v, u) ∧
      Reading.IsTagged v s s' i ∧ r.alert = i.alert ∧ r.provenance.Tells i

/-- **Whatever the policies, the backend and the text are, provenance is not forged.** -/
theorem isUnforged (backend : Backend) (s : Session) : IsUnforged backend s where
  reading := fun _ _ _ _ h => Reading.isTagged_of_ofText h
  report := by
    intro call a r s' hrun hr
    obtain ⟨i, decision, t, hread, -, rfl, rfl⟩ := Call.found_of_run hrun hr
    obtain ⟨v, u, hsurvey, htagged⟩ := Reading.isTagged_of_ofText hread
    -- what an analysis does besides reading makes no requests
    have htagged' : Reading.IsTagged v s (Call.left t (call.notes (.found i))) i :=
      ⟨htagged.policy_iff, htagged.silent_iff, htagged.model_iff⟩
    exact ⟨i, t, v, u, hread, hsurvey, htagged', rfl, rfl, rfl, rfl⟩

/-- A policy that captures the method and has another one among its defaults. -/
def posing : Json := .object [
  ("alert_type", .string "disk_full"),
  ("patterns", .array [.object [("pattern", .string "disk full, (?P<parse_method>\\w+)")]]),
  ("extraction_defaults", .object [("parse_method", .string "llm")])]

theorem found_posing :
    ∃ (policy : Policy) (i : Interpretation) (s' : Session),
      Policy.check posing = .valid policy ∧
      (Reading.ofText (.replying []) (some []) "disk full, llm").inSession
        (.holding .nearby [policy]) = (.ok (.found i), s') ∧
      (i.alert.parseMethod, i.model) = (ParseMethod.policy, none) :=
  Reading.exists_found (fun _ i => (i.alert.parseMethod, i.model)) (by decide +kernel)

theorem isUnforged_posing :
    ∃ (policy : Policy) (i : Interpretation) (s' : Session),
      Policy.check posing = .valid policy ∧
      (Reading.ofText (.replying []) (some []) "disk full, llm").inSession
        (.holding .nearby [policy]) = (.ok (.found i), s') ∧
      i.alert.parseMethod = .policy ∧
      ∃ v t, (Reading.survey (.replying []) (some []) "disk full, llm").inSession
          (.holding .nearby [policy]) = (.ok v, t) ∧
        Reading.IsTagged v (.holding .nearby [policy]) s' i := by
  obtain ⟨policy, i, s', hpolicy, hrun, hview⟩ := found_posing
  exact ⟨policy, i, s', hpolicy, hrun, (Prod.mk.inj hview).1,
    (isUnforged (.replying []) (.holding .nearby [policy])).reading _ _ _ _ hrun⟩

end Analysis

end Triage
