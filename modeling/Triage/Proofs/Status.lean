import Triage.Proofs.Cascade

/-!
# Which answers count as failures

An answer is rejected for its status where that is 400 or more, whatever its body says: then there is
no catalogue and no chat, and a consultation ends with the health check or goes on to the next model
(`Client.Rejects`). No other status says anything. An answer with a status below 400, be it a
redirection, is read as if the status were 200, and no reading of a text can tell the difference
(`Client.rejects_iff`).
-/

namespace Triage

/-- No time budget above zero is used up at once. -/
theorem overruns_of_lt {x : Binary64} (h : Binary64.zero.lt x = true) : overruns x true = false := by
  rw [overruns, Bool.not_true, Bool.or_false, Binary64.le, Bool.or_eq_false_iff]
  cases x with
  | nan => cases h
  | infinite negative =>
      cases negative with
      | true => cases h
      | false => exact ⟨rfl, rfl⟩
  | finite s m e =>
      simp only [Binary64.zero, Binary64.lt, Binary64.eqv, decide_eq_true_eq, decide_eq_false_iff_not,
        beq_eq_false_iff_ne, ne_eq, Int.min_comm e] at h ⊢
      omega

/-! ## Statuses that say nothing -/

/-- A status that is no failure counts as 200. -/
def clearStatus (status : Nat) : Nat := if 400 ≤ status then status else 200

/-- A reply whose status is 200 unless it is a failure. -/
def Reply.cleared : Reply → Reply
  | .answer status body => .answer (clearStatus status) body
  | reply => reply

/-- A backend that replies the same but for the statuses, which are 200 unless they are failures. -/
def Backend.cleared (backend : Backend) : Backend :=
  fun past request => (backend past request).cleared

theorem le_clearStatus_iff {status : Nat} : 400 ≤ clearStatus status ↔ 400 ≤ status := by
  rw [clearStatus]
  split
  · rfl
  · omega

/-- What is read from an answer does not tell its status from the cleared one. -/
theorem ite_clearStatus {α : Type} (status : Nat) (rejected : Nat → BackendError)
    (taken : Except CallFault α) :
    (if 400 ≤ clearStatus status then .error (.backend (rejected (clearStatus status))) else taken) =
      if 400 ≤ status then .error (.backend (rejected status)) else taken := by
  by_cases h : 400 ≤ status
  · rw [clearStatus, if_pos h]
  · rw [if_neg h, if_neg (mt le_clearStatus_iff.mp h)]

namespace Client

variable {c : Client} {backend : Backend} {past : List Request}

/-- What an exchange gives differs in the status only. -/
theorem exchange_cleared (c : Client) (backend : Backend) (seconds : Binary64) (resource : String)
    (body : Option Json) (past : List Request) :
    c.exchange backend.cleared seconds resource body past =
      ((c.exchange backend seconds resource body past).1,
        (c.exchange backend seconds resource body past).2.map fun answer =>
          (clearStatus answer.1, answer.2)) := by
  rw [exchange, exchange]
  cases c.address resource with
  | error fault => rfl
  | ok url =>
      dsimp only
      split
      · rfl
      · dsimp only [Backend.cleared]
        cases backend past ⟨url.text, body⟩ with
        | answer status text =>
            dsimp only [Reply.cleared]
            split
            · rfl
            · split <;> rfl
        | _ => rfl

theorem listModels_cleared (c : Client) (backend : Backend) :
    c.listModels backend.cleared = c.listModels backend := by
  funext past
  rw [listModels, listModels, exchange_cleared]
  rcases c.exchange backend c.healthTimeout "api/tags" none past with ⟨past', e | ⟨status, body⟩⟩
  · rfl
  · dsimp only [Except.map]
    rw [ite_clearStatus status .catalogueStatus]

theorem chat_cleared (c : Client) (backend : Backend) (model : String) (messages : Json)
    (temperature : Option Json) :
    c.chat backend.cleared model messages temperature =
      c.chat backend model messages temperature := by
  funext past
  rw [chat, chat, exchange_cleared]
  rcases c.exchange backend c.chatTimeout "api/chat"
    (some (chatBody model messages (temperature.getD (.float c.temperature)))) past
    with ⟨past', e | ⟨status, body⟩⟩
  · rfl
  · dsimp only [Except.map]
    rw [ite_clearStatus status fun status => .chatStatus status (detail body)]

end Client

theorem Cascade.consult_cleared (backend : Backend) (text : String) :
    consult backend.cleared text = consult backend text := by
  have hattempt (messages : Json) : attempt backend.cleared messages = attempt backend messages := by
    funext model
    simp only [attempt, Client.chat_cleared]
  simp only [consult, Client.listModels_cleared, hattempt]

theorem Reading.ofText_cleared (backend : Backend) (denied : Option (List String)) (text : String) :
    ofText backend.cleared denied text = ofText backend denied text := by
  simp only [ofText, Cascade.consult_cleared]

/-! ## Statuses that are failures -/

namespace Cascade

theorem unavailable_catalogueStatus (baseUrl : String) (status : Nat) :
    unavailable baseUrl (.catalogueStatus status) =
      s!"Ollama server not accessible at {baseUrl}" := by
  have htimeout : ¬ (BackendError.catalogueStatus status).isTimeout = true := Bool.false_ne_true
  have hcategory : (BackendError.catalogueStatus status).category ≠ "network" := by
    show "http" ≠ "network"
    decide
  unfold unavailable
  rw [if_neg htimeout, if_neg hcategory]

end Cascade

namespace Client

open Cascade

variable {c : Client} {backend : Backend} {past : List Request} {messages : Json} {model body : String}
  {status : Nat}

/-- A client rejects an answer for its status, whatever its body says and whatever else the backend
replies. -/
structure Rejects (c : Client) (status : Nat) : Prop where
  /-- There is no catalogue in the answer. -/
  listModels : ∀ (backend : Backend) (past : List Request) (body : String),
    backend past c.catalogueRequest = .answer status body →
    ∃ e, (c.listModels backend past).2 = .error (.backend e)
  /-- There is no chat in it. -/
  chat : ∀ (backend : Backend) (past : List Request) (model body : String) (messages : Json)
    (temperature : Option Json),
    let document := chatBody model messages (temperature.getD (.float c.temperature))
    document.isFinite = true →
    backend past (c.request "api/chat" (some document)) = .answer status body →
    ∃ e, (c.chat backend model messages temperature past).2 = .error (.backend e)
  /-- A consultation whose health check is answered so asks for no chat. -/
  consult : ∀ (backend : Backend) (text body : String) (s s₁ : Session),
    Run.client.inSession s = (.ok c, s₁) →
    backend s₁.requests c.catalogueRequest = .answer status body →
    (Cascade.consult backend text).inSession s =
      (.ok ⟨[], .failed s!"Ollama server not accessible at {c.baseUrl}"⟩,
        { s₁ with requests := s₁.requests ++ [c.catalogueRequest] })
  /-- An attempt that is answered so failed in a way that another model may do better in. -/
  attempt : ∀ (backend : Backend) (messages : Json) (model body : String) (s : Session),
    s.client = some c → messages.isFinite = true →
    backend s.requests (c.chatRequest messages model) = .answer status body →
    ∃ (a : Attempt) (s' : Session),
      (Cascade.attempt backend messages model).inSession s = (.ok a, s') ∧ a.IsRetryable

/-- Where there is time for an answer, its status or else its body says what it is. -/
theorem modelsBy_answer (h : c.HasAddress) (ho : overruns c.healthTimeout true = false)
    (status : Nat) (body : String) :
    c.modelsBy (.answer status body) =
      if 400 ≤ status then .error (.backend (.catalogueStatus status))
      else (catalogue body).mapError .backend := by
  have hnone : ∀ v ∈ (none : Option Json), v.isFinite = true := by simp
  rw [modelsBy, Client.listModels, exchange_eq h _ _ hnone]
  simp only [Backend.always, within, ho]
  rfl

/-- No chat is read from an answer whose status is a failure. -/
theorem chat_of_le (h : c.HasAddress) (hs : 400 ≤ status) (temperature : Option Json)
    (hb : (chatBody model messages (temperature.getD (.float c.temperature))).isFinite = true)
    (hreply : backend past (c.request "api/chat"
      (some (chatBody model messages (temperature.getD (.float c.temperature))))) =
        .answer status body) :
    ∃ e, (c.chat backend model messages temperature past).2 = .error (.backend e) := by
  have hbody : ∀ v ∈ some (chatBody model messages (temperature.getD (.float c.temperature))),
      v.isFinite = true := by
    rintro v ⟨rfl⟩
    exact hb
  rw [Client.chat, exchange_eq h _ _ hbody, hreply]
  cases ho : overruns c.chatTimeout true with
  | true => exact ⟨_, by simp [within, ho]; rfl⟩
  | false => exact ⟨_, by simp [within, ho, hs]; rfl⟩

/-- An answer whose status is a failure is rejected. -/
theorem rejects_of_le (h : c.HasAddress) (ht : c.temperature.isFinite = true)
    (ho : overruns c.healthTimeout true = false) (hs : 400 ≤ status) : c.Rejects status where
  listModels := by
    intro backend past body hreply
    rw [listModels_eq h, hreply, modelsBy_answer h ho, if_pos hs]
    exact ⟨_, rfl⟩
  chat := fun backend past model body messages temperature hb hreply => chat_of_le h hs temperature hb hreply
  consult := by
    intro backend text body s s₁ hc hreply
    have hl : c.listModels backend s₁.requests = (s₁.requests ++ [c.catalogueRequest],
        (.error (.catalogueStatus status) : Except BackendError (List ModelName)).mapError .backend) := by
      rw [listModels_eq h, hreply, modelsBy_answer h ho, if_pos hs]
      rfl
    rw [Cascade.consult, Run.inSession_bind_ok hc, Run.inSession_bind_ok (Run.inSession_call hl),
      ← unavailable_catalogueStatus c.baseUrl status]
    rfl
  attempt := by
    intro backend messages model body s hc hm hreply
    have hcrash (message : String) :
        backend s.requests (c.chatRequest messages model) ≠ .crash message := by
      rw [hreply]
      simp
    refine ⟨_, _, attempt_inSession hc h ht hm model hcrash, ?_⟩
    have hb := isFinite_chatBody model hm ht _ rfl
    obtain ⟨e, he⟩ := chat_of_le h hs none hb hreply
    have hby : c.chatBy messages model (backend s.requests (c.chatRequest messages model)) =
        .error (.backend e) := by
      rw [← he, chat_eq h ht hm]
    exact ⟨e.message, e.category, by rw [prospect, hby]; rfl⟩

/-- A catalogue that has no models in it. -/
def emptyCatalogue : String := "\x7b\"models\": []\x7d"

theorem catalogue_emptyCatalogue : catalogue emptyCatalogue = .ok [] := ok_of_toOption (by decide +kernel)

/-- An answer with any other status may have a catalogue in it. -/
theorem not_rejects_of_lt (h : c.HasAddress) (ho : overruns c.healthTimeout true = false)
    (hs : status < 400) : ¬ c.Rejects status := by
  intro hrejects
  obtain ⟨e, he⟩ := hrejects.listModels (.always (.answer status emptyCatalogue)) [] emptyCatalogue rfl
  rw [listModels_eq h, Backend.always, modelsBy_answer h ho, if_neg (by omega),
    catalogue_emptyCatalogue] at he
  cases he

/-- **A client rejects exactly the answers with a status of 400 or more; any other status is as good
as 200.** -/
theorem rejects_iff {env : Environment} {settings : BackendSettings}
    (hsettings : BackendSettings.check env = .valid settings) (baseUrl model : Option String)
    (h : (make settings baseUrl model).HasAddress) :
    (∀ status, (make settings baseUrl model).Rejects status ↔ 400 ≤ status) ∧
      ∀ (backend : Backend) (denied : Option (List String)) (text : String),
        Reading.ofText backend.cleared denied text = Reading.ofText backend denied text := by
  have ht : (make settings baseUrl model).temperature.isFinite = true :=
    BackendSettings.isFinite_temperature hsettings
  have ho : overruns (make settings baseUrl model).healthTimeout true = false :=
    overruns_of_lt (BackendSettings.lt_healthTimeout hsettings)
  refine ⟨fun status => ⟨fun hrejects => ?_, rejects_of_le h ht ho⟩, Reading.ofText_cleared⟩
  by_contra hlt
  exact not_rejects_of_lt h ho (Nat.lt_of_not_le hlt) hrejects

/-- The settings where nothing is set. -/
def usual : BackendSettings :=
  ⟨none, none, "llama3", .ofInt 5, .ofInt 30, .ofDecimal false 1 (-1)⟩

theorem rejects_iff_usual :
    BackendSettings.check [] = .valid usual ∧
      (∀ status, (make usual none none).Rejects status ↔ 400 ≤ status) ∧
      ∀ (backend : Backend) (denied : Option (List String)) (text : String),
        Reading.ofText backend.cleared denied text = Reading.ofText backend denied text := by
  have hsettings : BackendSettings.check [] = .valid usual := rfl
  have haddress : (make usual none none).HasAddress := hasAddress_nearby
  exact ⟨hsettings, rejects_iff hsettings none none haddress⟩

/-- A backend whose answers have bodies as they should be, and the status of a redirection. -/
def redirecting : Backend := fun past request =>
  match Backend.replying [.listing ["llama3:latest"], .saying "hello"] past request with
  | .answer _ body => .answer 302 body
  | reply => reply

/-- **A redirection is read as a catalogue and as a chat.** -/
theorem accepts_redirecting :
    (nearby.listModels redirecting []).2 = .ok [Text.points "llama3:latest"] ∧
      (nearby.chat redirecting "llama3:latest" (.array []) none [nearby.catalogueRequest]).2 =
        .ok "hello" :=
  ⟨ok_of_toOption (by decide +kernel), ok_of_toOption (by decide +kernel)⟩

end Client

end Triage
