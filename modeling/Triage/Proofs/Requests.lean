import Triage.Proofs.Consultation

/-!
# What a consultation asks

A consultation asks for the catalogue, and for nothing else but chats about its text
(`requests_of_consult`). In the cascade the backend was known to reply; here nothing is assumed of
it. A call may break down, and then the consultation ends there, with the requests made so far. So
the induction over the candidates is carried by a weaker step than before (`requests_of_attempt`):
an attempt makes its request, or it is the end of the run. Behind the attempts there may be a model
that is not asked because its name cannot be written; no request is made of it.

Two consultations need no backend to be told. Where no address can be made out (`CanAsk`), nothing
is asked and the failure is always the same. Where the backend is out of reach, the words of the
transport are passed on.
-/

namespace Triage

namespace Cascade

variable {c : Client} {backend : Backend} {messages : Json} {policies : List Policy} {path : Path}
  {u : Url} {text : String} {s s₁ : Session}

/-! ## What a consultation asks -/

theorem keeps_requests_client : Run.Keeps Session.requests Run.client :=
  Run.keeps_client (fun _ _ => rfl) fun _ _ => rfl

/-- An attempt makes its request, or it is the end of the run. -/
theorem requests_of_attempt {model : String} {o : Except Failure Attempt}
    (hc : s.client = some c) (h : c.HasAddress)
    (hrun : (attempt backend messages model).inSession s = (o, s₁)) :
    s₁.client = some c ∧
      (s₁.requests = s.requests ++ [c.chatRequest messages model] ∨
        s₁.requests = s.requests ∧ ∃ e, o = .error e) := by
  rw [attempt, Run.inSession_bind_ok (Run.inSession_client_of_some hc)] at hrun
  -- what follows the call notes something and changes nothing else
  have hsession : s₁.client = some c ∧
      s₁.requests = (c.chat backend model messages none s.requests).1 := by
    rcases hcall : (Run.call (c.chat backend model messages none)).inSession s with ⟨e | r, t⟩
    · have ht := Run.session_of_call hcall
      rw [Run.inSession_bind_error hcall] at hrun
      cases hrun
      exact ⟨by rw [ht, hc], by rw [ht]⟩
    · have ht := Run.session_of_call hcall
      rw [Run.inSession_bind_ok hcall] at hrun
      cases r <;> (cases hrun; exact ⟨by rw [ht]; exact hc, by rw [ht]⟩)
  refine ⟨hsession.1, ?_⟩
  rcases Client.requests_of_chat model h with hchat | hchat
  · exact .inl (hsession.2.trans hchat)
  · rw [Run.inSession_bind_error (Run.inSession_call_of_breakdown hchat)] at hrun
    exact .inr ⟨hsession.2.trans (congrArg Prod.fst hchat), _, (congrArg Prod.fst hrun).symm⟩

/-- The models asked are the first ones, each once and in order. -/
theorem requests_of_attempts (backend : Backend) (messages : Json) (hc : s.client = some c)
    (h : c.HasAddress) (models : List String) :
    ∃ asked, asked <+: models ∧
      ((attempts (attempt backend messages) models).inSession s).2.requests =
        s.requests ++ asked.map (c.chatRequest messages) := by
  induction models generalizing s with
  | nil => exact ⟨[], List.prefix_rfl, by simp [attempts]⟩
  | cons model rest ih =>
      rcases hrun : (attempt backend messages model).inSession s with ⟨e | a, t⟩
      · obtain ⟨-, hrequests⟩ := requests_of_attempt hc h hrun
        rw [attempts, Run.inSession_bind_error hrun]
        rcases hrequests with hasked | ⟨hasked, -⟩
        · exact ⟨[model], ⟨rest, rfl⟩, hasked⟩
        · exact ⟨[], List.nil_prefix, by simp [hasked]⟩
      · obtain ⟨hclient, hrequests⟩ := requests_of_attempt hc h hrun
        have hasked : t.requests = s.requests ++ [c.chatRequest messages model] :=
          hrequests.resolve_right (by rintro ⟨-, e, he⟩; cases he)
        rw [attempts, Run.inSession_bind_ok hrun]
        by_cases ha : a.ending.isFinal = true
        · rw [if_pos ha]
          exact ⟨[model], ⟨rest, rfl⟩, hasked⟩
        · -- the next model is asked in the session that this attempt leaves
          obtain ⟨asked, hinitial, hrest⟩ := ih hclient
          rw [if_neg ha]
          refine ⟨model :: asked, (List.prefix_cons_inj model).mpr hinitial, ?_⟩
          refine (Run.view_bind (fun _ => Run.keeps_pure _) t).trans ?_
          rw [hrest, hasked, List.map_cons, List.append_assoc]
          rfl

/-- **A consultation asks for the catalogue, and then it only chats about its text**, with no model
twice. -/
theorem requests_of_consult (backend : Backend) (text : String)
    (hheld : s.store.held = some (path, policies))
    (hc : Run.client.inSession s = (.ok c, s₁)) (hu : c.address "api/tags" = .ok u) :
    ∃ models : List String, models.Nodup ∧
      ((consult backend text).inSession s).2.requests = s.requests ++ c.catalogueRequest ::
        models.map (c.chatRequest (Prompt.messages text policies)) := by
  have hrequests : s₁.requests = s.requests := keeps_requests_client.of_run hc
  have hkeeps : Run.Keeps Session.store Run.client :=
    Run.keeps_client (fun _ _ => rfl) fun _ _ => rfl
  have hstore : s₁.store = s.store := hkeeps.of_run hc
  rw [consult, Run.inSession_bind_ok hc]
  rcases hl : (Run.call (c.listModels backend)).inSession s₁ with ⟨e | r, s₂⟩
  all_goals
    have hs₂ := Run.session_of_call hl
    rw [Client.requests_of_listModels hu, hrequests] at hs₂
  · rw [Run.inSession_bind_error hl, hs₂]
    exact ⟨[], .nil, rfl⟩
  · rw [Run.inSession_bind_ok hl]
    rcases r with e | _ | ⟨model, rest⟩
    · exact ⟨[], .nil, by rw [hs₂]; rfl⟩
    · exact ⟨[], .nil, by rw [hs₂]; rfl⟩
    · -- only here a chat follows, and the messages are made of the policies still held
      have haddress : c.HasAddress := Client.hasAddress_of_listModels (Run.call_of_run hl).1
      have hclient : s₂.client = some c := by
        rw [hs₂]
        exact (Run.client_of_run hc :)
      have hheld₂ : s₂.store.held = some (path, policies) := by
        rw [hs₂]
        exact (hstore ▸ hheld :)
      obtain ⟨asked, hinitial, hasked⟩ := requests_of_attempts backend
        (Prompt.messages text policies) hclient haddress
        (writable (candidates (Text.points c.model) (model :: rest))).1
      dsimp only
      rw [Run.inSession_bind_ok (Store.inSession_load_of_held hheld₂)]
      refine ⟨asked, hinitial.sublist.nodup (nodup_writable (nodup_candidates _ _)), ?_⟩
      refine (Run.view_bind (fun made => Run.keeps_bind (keeps_goOn made _)
        fun _ => Run.keeps_bind (keeps_verdict (fun _ _ => rfl) (fun _ _ => rfl) made)
          fun _ => Run.keeps_pure _) s₂).trans ?_
      rw [hasked, hs₂, List.append_assoc]
      rfl

/-! ## Where nobody can be asked -/

/-- An address for the catalogue can be made out: there is a client, or one can be made, and its
base can be read. -/
def CanAsk (s : Session) : Prop :=
  ∃ (c : Client) (s' : Session) (u : Url),
    Run.client.inSession s = (.ok c, s') ∧ c.address "api/tags" = .ok u

/-- Without an address a consultation fails, in the same way over every backend. -/
theorem consult_of_not_canAsk (text : String) (h : ¬ CanAsk s) :
    ∃ (e : Failure) (t : Session), t.requests = s.requests ∧
      ∀ backend, (consult backend text).inSession s = (.error e, t) := by
  rcases hc : Run.client.inSession s with ⟨e | c, t⟩
  · refine ⟨e, t, keeps_requests_client.of_run hc, fun backend => ?_⟩
    rw [consult, Run.inSession_bind_error hc]
  · cases hu : c.address "api/tags" with
    | ok u => exact absurd ⟨c, t, u, hc, hu⟩ h
    | error fault =>
        refine ⟨.breakdown (.url fault), t, keeps_requests_client.of_run hc, fun backend => ?_⟩
        have hl : c.listModels backend t.requests =
            (t.requests, .error (.breakdown (.url fault))) := Client.listModels_of_address_error hu
        rw [consult, Run.inSession_bind_ok hc,
          Run.inSession_bind_error (Run.inSession_call_of_breakdown hl)]

theorem unavailable_unreachable (baseUrl message : String) :
    unavailable baseUrl (.unreachable message) =
      s!"Cannot connect to Ollama at {baseUrl}. Make sure Ollama is running: {message}" := by
  have htimeout : ¬ (BackendError.unreachable message).isTimeout = true := Bool.false_ne_true
  have hcategory : (BackendError.unreachable message).category = "network" := rfl
  unfold unavailable
  rw [if_neg htimeout, if_pos hcategory]
  rfl

theorem unavailable_unreachable_ne (baseUrl message : String) :
    unavailable baseUrl (.unreachable message) ≠ "" := by
  rw [unavailable_unreachable]
  simp only [ne_eq, String.append_eq_empty_iff]
  rintro ⟨⟨⟨h, -⟩, -⟩, -⟩
  simp [toString] at h

theorem unavailable_unreachable_inj {baseUrl message message' : String} :
    unavailable baseUrl (.unreachable message) = unavailable baseUrl (.unreachable message') ↔
      message = message' := by
  rw [unavailable_unreachable, unavailable_unreachable]
  exact String.append_right_inj _

/-- A backend out of reach is reported in the words of the transport. -/
theorem consult_unreachable (text kind message : String)
    (hc : Run.client.inSession s = (.ok c, s₁)) (hu : c.address "api/tags" = .ok u) :
    let error : BackendError := .unreachable (Client.reason kind message)
    ∃ t, (consult (.always (.broken kind message)) text).inSession s =
      (.ok ⟨[], .failed (unavailable c.baseUrl error)⟩, t) := by
  intro error
  have hl : c.listModels (.always (.broken kind message)) s₁.requests =
      (s₁.requests ++ [⟨u.text, none⟩],
        (.error error : Except BackendError (List ModelName)).mapError .backend) := by
    rw [Client.listModels, Client.exchange, hu]
    rfl
  rw [consult, Run.inSession_bind_ok hc, Run.inSession_bind_ok (Run.inSession_call hl)]
  exact ⟨_, rfl⟩

end Cascade

end Triage
