import Mathlib.Data.List.Forall2
import Triage.Proofs.Origin

/-!
# What a reading does not say

A reading says what came of a text, but not which models were asked about it. A survey keeps this: it
is the reading up to the point where the attempts are forgotten. Nothing is made up for it, since a
reading is a survey and a conclusion drawn from it (`ofText_eq_bind`), so the survey of a run is what
has taken place in that run.

Every attempt of a survey has its request and its note, and the last one tells the verdict
(`Consultation.IsRecorded`). What is assumed of the backend is nothing at all: a survey that ends with
a value has met no breakdown.
-/

namespace Triage

/-- A request for a chat with a model. -/
def Request.IsChatWith (model : String) (r : Request) : Prop :=
  ∃ (c : Client) (messages : Json), r = c.chatRequest messages model

/-- A request for a chat. -/
def Request.IsChat (r : Request) : Prop := ∃ model, r.IsChatWith model

theorem Client.not_isChat_catalogueRequest (c : Client) : ¬ c.catalogueRequest.IsChat := by
  rintro ⟨model, c', messages, h⟩
  have hbody := congrArg Request.body h
  rw [catalogueRequest, chatRequest, request, request] at hbody
  split at hbody <;> (split at hbody <;> cases hbody)

/-- The last attempt tells a verdict: it gave the alert, or it said that there is none, or it failed
as all others have. -/
def Verdict.IsToldBy (attempts : List Attempt) : Verdict → Prop
  | .alert given _ model =>
    attempts.getLast? = some ⟨model, .success given⟩ ∧ Cascade.IsGiven given
  | .none model _ => attempts.getLast? = some ⟨model, .negative⟩
  | .failed _ => ∀ a ∈ attempts.getLast?, a.IsRetryable

/-- What a session has on record. -/
def Session.record (s : Session) : List Request × Journal := (s.requests, s.journal)

namespace Consultation

/-- The consultation that asks nobody. -/
def none : Consultation := ⟨[], .failed ""⟩

/-- A consultation has left its marks between two sessions. -/
structure IsRecorded (made : Consultation) (s s' : Session) : Prop where
  /-- The chats asked for are those of the attempts, one for each and in order. -/
  requests : ∃ front chats : List Request, s'.requests = s.requests ++ (front ++ chats) ∧
    (∀ r ∈ front, ¬ r.IsChat) ∧
    List.Forall₂ (fun a r => Request.IsChatWith a.model r) made.attempts chats
  /-- Every attempt is noted. -/
  journal : s'.journal = s.journal ++ made.attempts.map Attempt.event
  /-- The last one tells the verdict. -/
  told : made.verdict.IsToldBy made.attempts

variable {made : List Attempt} {verdict : Verdict} {front : List Request} {s s' t : Session}

/-- Where nobody was asked, at most other requests than chats are on record. -/
theorem isRecorded_nil (said : String) (front : List Request)
    (ht : t.record = (s.requests ++ front, s.journal)) (hfront : ∀ r ∈ front, ¬ r.IsChat) :
    IsRecorded ⟨[], .failed said⟩ s t := by
  obtain ⟨hrequests, hjournal⟩ := Prod.mk.inj ht
  exact
    { requests := ⟨front, [], by rw [hrequests, List.append_nil], hfront, .nil⟩
      journal := by rw [hjournal]; exact (List.append_nil _).symm
      told := fun a ha => nomatch ha }

/-- Behind them stand the requests of the attempts. -/
theorem isRecorded_after (c : Client) (messages : Json)
    (ht : t.record = (s.requests ++ front, s.journal)) (hfront : ∀ r ∈ front, ¬ r.IsChat)
    (htold : verdict.IsToldBy made) :
    IsRecorded ⟨made, verdict⟩ s (Cascade.after c messages t made) := by
  obtain ⟨hrequests, hjournal⟩ := Prod.mk.inj ht
  have hchats : List.Forall₂ (fun a r => Request.IsChatWith a.model r) made
      (made.map fun a => c.chatRequest messages a.model) :=
    List.forall₂_map_right_iff.mpr (List.forall₂_same.mpr fun a _ => ⟨c, messages, rfl⟩)
  exact
    { requests := ⟨front, _, by rw [Cascade.after, hrequests, List.append_assoc], hfront, hchats⟩
      journal := by rw [Cascade.after, hjournal]
      told := htold }

end Consultation

namespace Cascade

variable {c : Client} {backend : Backend} {messages : Json} {model text : String}
  {models : List String} {policies : List Policy} {s s' : Session}

/-- An attempt that ends leaves its request and its note, whatever the backend is. -/
theorem after_of_attempt {a : Attempt} (hc : s.client = some c) (h : c.HasAddress)
    (hrun : (attempt backend messages model).inSession s = (.ok a, s')) :
    s' = after c messages s [a] := by
  rw [attempt, Run.inSession_bind_ok (Run.inSession_client_of_some hc)] at hrun
  obtain ⟨r, t, hcall, hrun⟩ := Run.bind_eq_ok_iff.mp hrun
  obtain ⟨hgiven, rfl⟩ := Run.call_of_run hcall
  have hasked : (c.chat backend model messages none s.requests).1 =
      s.requests ++ [c.chatRequest messages model] := by
    refine (Client.requests_of_chat model h).resolve_right fun hbroken => ?_
    rw [hbroken] at hgiven
    cases r <;> cases hgiven
  rw [hasked] at hrun
  cases r <;> (cases hrun; rfl)

theorem after_of_attempts {made : List Attempt} (hc : s.client = some c) (h : c.HasAddress)
    (hrun : (attempts (attempt backend messages) models).inSession s = (.ok made, s')) :
    s' = after c messages s made := by
  induction models generalizing s made with
  | nil =>
      cases hrun
      rw [after_nil]
  | cons model rest ih =>
      rw [attempts] at hrun
      obtain ⟨a, t, hfirst, hrun⟩ := Run.bind_eq_ok_iff.mp hrun
      obtain rfl := after_of_attempt hc h hfirst
      split at hrun
      · cases hrun
        rfl
      · obtain ⟨others, t', hothers, hrun⟩ := Run.bind_eq_ok_iff.mp hrun
        cases hrun
        rw [← after_after]
        exact ih hc hothers

theorem isToldBy_verdictBy {made : List Attempt}
    (hgiven : ∀ a ∈ made, ∀ alert, a.ending = .success alert → IsGiven alert) :
    (verdictBy policies made).IsToldBy made := by
  rcases hv : verdictBy policies made with ⟨alert, attached, model⟩ | ⟨model, said⟩ | said
  · have hlast := (verdictBy_eq_alert_iff.mp hv).1
    exact ⟨hlast, hgiven _ (List.mem_of_getLast? hlast) alert rfl⟩
  · exact (verdictBy_eq_none_iff.mp hv).1
  · exact (verdictBy_eq_failed_iff.mp hv).1

theorem keeps_record_load : Run.Keeps Session.record Store.load :=
  Store.keeps_load (fun _ _ => rfl) fun _ _ => rfl

theorem record_of_catalogue {r : Except BackendError (List ModelName)}
    (h : (Run.call (c.listModels backend)).inSession s = (.ok r, s')) :
    s'.record = (s.requests ++ [c.catalogueRequest], s.journal) := by
  obtain ⟨hgiven, rfl⟩ := Run.call_of_run h
  cases hu : c.address "api/tags" with
  | ok u =>
      rw [Client.requests_of_listModels hu]
      rfl
  | error fault =>
      rw [Client.listModels_of_address_error hu] at hgiven
      cases r <;> cases hgiven

/-- **A consultation that ends is on record.** -/
theorem isRecorded_of_consult {made : Consultation}
    (hrun : (consult backend text).inSession s = (.ok made, s')) : made.IsRecorded s s' := by
  rw [consult] at hrun
  obtain ⟨c, s₁, hclient, hrun⟩ := Run.bind_eq_ok_iff.mp hrun
  obtain ⟨listed, s₂, hlisted, hrun⟩ := Run.bind_eq_ok_iff.mp hrun
  have hkeeps : Run.Keeps Session.record Run.client :=
    Run.keeps_client (fun _ _ => rfl) fun _ _ => rfl
  have hrecord : s₂.record = (s.requests ++ [c.catalogueRequest], s.journal) := by
    obtain ⟨hrequests, hjournal⟩ := Prod.mk.inj (hkeeps.of_run hclient)
    rw [record_of_catalogue hlisted, hrequests, hjournal]
  have hfront : ∀ r ∈ [c.catalogueRequest], ¬ r.IsChat := by
    intro r hr
    rw [List.mem_singleton.mp hr]
    exact c.not_isChat_catalogueRequest
  rcases listed with e | _ | ⟨first, rest⟩
  · cases hrun
    exact Consultation.isRecorded_nil _ _ hrecord hfront
  · cases hrun
    exact Consultation.isRecorded_nil _ _ hrecord hfront
  · obtain ⟨hgiven, hs₂⟩ := Run.call_of_run hlisted
    have haddress : c.HasAddress := Client.hasAddress_of_listModels hgiven
    obtain ⟨policies, s₃, hload, hrun⟩ := Run.bind_eq_ok_iff.mp hrun
    obtain ⟨attempted, s₄, hattempted, hrun⟩ := Run.bind_eq_ok_iff.mp hrun
    have hclient₃ : s₃.client = some c := by
      have hload' : Run.Keeps Session.client Store.load :=
        Store.keeps_load (fun _ _ => rfl) fun _ _ => rfl
      rw [hload'.of_run hload, hs₂]
      exact (Run.client_of_run hclient :)
    obtain ⟨path, hheld⟩ := Store.held_of_load hload
    obtain rfl := after_of_attempts hclient₃ haddress hattempted
    -- the policies are still held, so telling the verdict changes nothing
    have hverdict := verdict_inSession (s := after c (Prompt.messages text policies) s₃ attempted)
      hheld attempted
    obtain ⟨_, s₅, hgone, hrun⟩ := Run.bind_eq_ok_iff.mp hrun
    rw [session_of_goOn hgone, Run.inSession_bind_ok hverdict] at hrun
    cases hrun
    have htold : (verdictBy policies attempted).IsToldBy attempted :=
      isToldBy_verdictBy fun a ha alert => isGiven_of_attempts hattempted ha
    exact Consultation.isRecorded_after c _ ((keeps_record_load.of_run hload).trans hrecord) hfront
      htold

end Cascade

/-- What has been found out about a text before a conclusion is drawn. -/
structure Survey where
  /-- The disabled alert types. -/
  denied : List String
  /-- What the policies recognise. -/
  recognised : Option Recognition
  /-- The consultation; where no model is needed, nobody is asked. -/
  made : Consultation

namespace Reading

variable {backend : Backend} {given : Option (List String)} {text : String} {reading : Reading}
  {v : Survey} {e : Failure} {s s' : Session}

/-- Interprets a text up to the conclusion. -/
def survey (backend : Backend) (given : Option (List String)) (text : String) : Run Survey := do
  let denied ← denylist given
  let policies ← Store.load
  let recognised ← Recognition.ofText text policies
  match byPolicy denied recognised with
  | .settled _ _ => return ⟨denied, recognised, .none⟩
  | .open _ _ => return ⟨denied, recognised, ← Cascade.consult backend text⟩

/-- The conclusion drawn from a survey. -/
def conclusion (v : Survey) : Except Failure (Reading × Event) :=
  match byPolicy v.denied v.recognised with
  | .settled reading event => .ok (reading, event)
  | .open policy reason => byModel v.denied policy reason v.made.verdict

/-- **A reading is a survey and the conclusion drawn from it.** -/
theorem ofText_eq_bind (backend : Backend) (given : Option (List String)) (text : String) :
    ofText backend given text = (do
      let (reading, event) ← conclusion (← survey backend given text)
      Run.note event
      return reading) := by
  rw [ofText, survey]
  simp only [bind_assoc]
  refine bind_congr fun denied => bind_congr fun policies => bind_congr fun recognised => ?_
  cases h : byPolicy denied recognised with
  | settled reading event =>
      rw [pure_bind, conclusion, h]
      rfl
  | «open» policy reason =>
      rw [bind_assoc]
      refine bind_congr fun made => ?_
      rw [pure_bind, conclusion, h]

/-- A reading that is returned was concluded from a survey and is noted behind it. -/
theorem survey_of_ofText (h : (ofText backend given text).inSession s = (.ok reading, s')) :
    ∃ (v : Survey) (t : Session) (event : Event),
      (survey backend given text).inSession s = (.ok v, t) ∧
      conclusion v = .ok (reading, event) ∧ s' = { t with journal := t.journal ++ [event] } := by
  rw [ofText_eq_bind] at h
  obtain ⟨v, t, hsurvey, h⟩ := Run.bind_eq_ok_iff.mp h
  obtain ⟨⟨found, event⟩, t', hconclusion, h⟩ := Run.bind_eq_ok_iff.mp h
  rw [Run.inSession_lift, Prod.mk.injEq] at hconclusion
  obtain ⟨hconclusion, rfl⟩ := hconclusion
  cases h
  exact ⟨v, t, event, hsurvey, hconclusion, rfl⟩

/-- One that fails has failed in the survey, or no conclusion could be drawn from it. -/
theorem survey_of_ofText_error (h : (ofText backend given text).inSession s = (.error e, s')) :
    (survey backend given text).inSession s = (.error e, s') ∨
      ∃ v, (survey backend given text).inSession s = (.ok v, s') ∧ conclusion v = .error e := by
  rw [ofText_eq_bind] at h
  rcases Run.bind_eq_error_iff.mp h with h | ⟨v, t, hsurvey, h⟩
  · exact .inl h
  · rcases Run.bind_eq_error_iff.mp h with h | ⟨⟨found, event⟩, t', -, h⟩
    · rw [Run.inSession_lift, Prod.mk.injEq] at h
      obtain ⟨hconclusion, rfl⟩ := h
      exact .inr ⟨v, hsurvey, hconclusion⟩
    · cases h

/-- In a survey the policies have recognised what they do, and where that settles the text nobody is
asked. -/
theorem recognised_of_survey (h : (survey backend given text).inSession s = (.ok v, s')) :
    (∃ policies, Recognition.ofText text policies = .ok v.recognised) ∧
      ∀ reading event, byPolicy v.denied v.recognised = .settled reading event →
        v.made = .none := by
  rw [survey] at h
  obtain ⟨denied, s₁, -, h⟩ := Run.bind_eq_ok_iff.mp h
  obtain ⟨policies, s₂, -, h⟩ := Run.bind_eq_ok_iff.mp h
  obtain ⟨recognised, s₃, hrec, h⟩ := Run.bind_eq_ok_iff.mp h
  rw [Run.inSession_lift, Prod.mk.injEq] at hrec
  split at h
  · cases h
    exact ⟨⟨policies, hrec.1⟩, fun _ _ _ => rfl⟩
  · rename_i hopen
    obtain ⟨made, t, -, h⟩ := Run.bind_eq_ok_iff.mp h
    cases h
    refine ⟨⟨policies, hrec.1⟩, fun _ _ hsettled => ?_⟩
    rw [hopen] at hsettled
    cases hsettled

theorem keeps_record_denylist (given : Option (List String)) :
    Run.Keeps Session.record (denylist given) := keeps_denylist (fun _ _ => rfl) given

/-- **A survey is on record.** -/
theorem isRecorded_of_survey (h : (survey backend given text).inSession s = (.ok v, s')) :
    v.made.IsRecorded s s' := by
  rw [survey] at h
  obtain ⟨denied, s₁, hdenied, h⟩ := Run.bind_eq_ok_iff.mp h
  obtain ⟨policies, s₂, hload, h⟩ := Run.bind_eq_ok_iff.mp h
  obtain ⟨recognised, s₃, hrec, h⟩ := Run.bind_eq_ok_iff.mp h
  rw [Run.inSession_lift, Prod.mk.injEq] at hrec
  obtain ⟨-, rfl⟩ := hrec
  have hrecord : s₂.record = s.record := by
    rw [Cascade.keeps_record_load.of_run hload, (keeps_record_denylist given).of_run hdenied]
  split at h
  · cases h
    exact Consultation.isRecorded_nil "" [] (by rw [hrecord, List.append_nil]; rfl) (by simp)
  · obtain ⟨made, t, hconsult, h⟩ := Run.bind_eq_ok_iff.mp h
    cases h
    obtain ⟨hrequests, hjournal⟩ := Prod.mk.inj hrecord
    have hmade := Cascade.isRecorded_of_consult hconsult
    exact ⟨hrequests ▸ hmade.requests, hjournal ▸ hmade.journal, hmade.told⟩

end Reading
end Triage
