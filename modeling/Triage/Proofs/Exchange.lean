import Triage.Backend.Client
import Triage.Proofs.Address
import Triage.Proofs.Schema

/-!
# What a call of the backend gives

A call makes one request and gives what the backend's reply amounts to. Two things are proved about
that here, for a client whose base can be read and has a scheme.

**A call depends on nothing but the reply.** `listModels_eq` and `chat_eq` say which request is made
and that what the call gives is what it would give over a backend that replies the same to
everything.

**Only a crash breaks a call down.** Whatever else the reply is (an answer of any status and body, a
failure of the transport, or none at all) the call gives a value or an error of the backend
(`modelsBy_answers`, `chatBy_answers`).

Which request a call makes does not even depend on the reply, and an address that can be read is
all that it takes (`requests_of_listModels`, `requests_of_chat`).
-/

namespace Triage

/-- Whatever is asked, the backend answers, fails in the transport or stays silent. -/
def Backend.Replies (backend : Backend) : Prop :=
  ∀ (past : List Request) (request : Request) (message : String),
    backend past request ≠ .crash message

/-- The backend that replies the same to everything. -/
def Backend.always (reply : Reply) : Backend := fun _ _ => reply

/-- The backend that gives some replies in turn and then stays silent. -/
def Backend.replying (replies : List Reply) : Backend :=
  fun past _ => replies.getD past.length .silence

/-- The reply that lists models. -/
def Reply.listing (models : List String) : Reply :=
  let entry := fun model => Json.object [("name", .string model)]
  .answer 200 ((Json.object [("models", .array (models.map entry))]).write .ascii)

/-- The reply of a model that says something. -/
def Reply.saying (content : String) : Reply :=
  .answer 200 ((Json.object [("response", .string content)]).write .ascii)

theorem Backend.replies_replying {replies : List Reply}
    (h : ∀ message, Reply.crash message ∉ replies) : (Backend.replying replies).Replies := by
  intro past request message hcrash
  rw [replying, List.getD_eq_getElem?_getD] at hcrash
  cases hget : replies[past.length]? with
  | none => simp [hget] at hcrash
  | some reply =>
      rw [hget, Option.getD_some] at hcrash
      exact h message (hcrash ▸ List.mem_of_getElem? hget)

namespace Client

/-- The base of the addresses can be read and has a scheme. -/
def HasAddress (c : Client) : Prop :=
  ∃ u : Url, Url.parse c.baseUrl = .ok u ∧ u.scheme ≠ ""

/-- A request for a resource of the backend; without an address there is none to be made. -/
def request (c : Client) (resource : String) (body : Option Json) : Request :=
  match c.address resource with
  | .ok u => ⟨u.text, body⟩
  | .error _ => ⟨"", body⟩

/-- The request for the catalogue. -/
def catalogueRequest (c : Client) : Request := c.request "api/tags" none

/-- The request for a chat with a model. -/
def chatRequest (c : Client) (messages : Json) (model : String) : Request :=
  c.request "api/chat" (some (chatBody model messages (.float c.temperature)))

/-- What an exchange makes of a reply within a time budget. -/
def within (seconds : Binary64) : Reply → Except Silence (Nat × String)
  | .answer status text => if overruns seconds true then .error .overdue else .ok (status, text)
  | .tardy message => .error (.tardy message)
  | .broken kind message => .error (.broken kind message)
  | .crash message => .error (.breakdown (.crash message))
  | .silence => .error .overdue

/-- A client of a backend on the same machine. -/
def nearby : Client where
  baseUrl := BackendSettings.localAddress
  model := "llama3:latest"
  healthTimeout := .ofInt 5
  chatTimeout := .ofInt 30
  temperature := .zero

variable {c : Client} {backend : Backend} {past : List Request} {messages : Json}
  {model : String} {reply : Reply}

/-! ## Exchanges -/

theorem address_eq_ok (h : c.HasAddress) (resource : String) :
    ∃ u : Url, c.address resource = .ok u ∧ u.scheme ≠ "" := by
  obtain ⟨base, hbase, hs⟩ := h
  obtain ⟨u, hu, hus⟩ := Url.below_eq_ok hs (Url.rooted_of_parse hbase hs) resource
  refine ⟨u, ?_, hus ▸ hs⟩
  rw [address, hbase]
  exact hu

/-- Where all of a document can be written, nothing keeps it from being sent. -/
theorem any_not_isFinite {body : Option Json} (hb : ∀ v ∈ body, v.isFinite = true) :
    (body.any fun v => !v.isFinite) = false := by
  cases body with
  | none => rfl
  | some v => simp [hb v rfl]

/-- An exchange makes its request and gives what the reply amounts to. -/
theorem exchange_eq (h : c.HasAddress) (seconds : Binary64) (resource : String)
    {body : Option Json} (hb : ∀ v ∈ body, v.isFinite = true) :
    c.exchange backend seconds resource body past =
      (past ++ [c.request resource body],
        within seconds (backend past (c.request resource body))) := by
  obtain ⟨u, hu, hs⟩ := address_eq_ok h resource
  have hreq : c.request resource body = ⟨u.text, body⟩ := by rw [request, hu]
  rw [exchange, hu, hreq]
  simp only [any_not_isFinite hb, Bool.false_eq_true, if_false, hs]
  cases backend past ⟨u.text, body⟩ <;> rfl

/-- Wherever there is an address, an exchange makes its request, whatever comes of it. -/
theorem requests_of_exchange {u : Url} {seconds : Binary64} {resource : String}
    {body : Option Json} (hu : c.address resource = .ok u)
    (hb : ∀ v ∈ body, v.isFinite = true) :
    (c.exchange backend seconds resource body past).1 = past ++ [c.request resource body] := by
  rw [exchange, request, hu]
  simp only [any_not_isFinite hb]
  rfl

/-- A document that cannot be written is not sent. -/
theorem exchange_of_not_finite {u : Url} {seconds : Binary64} {resource : String} {v : Json}
    (hu : c.address resource = .ok u) (hv : v.isFinite = false) :
    c.exchange backend seconds resource (some v) past = (past, .error (.breakdown .notFinite)) := by
  rw [exchange, hu]
  simp [hv]

/-- A reply that is no crash is no breakdown either. -/
theorem within_ne_breakdown (h : ∀ message, reply ≠ .crash message) (seconds : Binary64)
    (b : Breakdown) : within seconds reply ≠ .error (.breakdown b) := by
  cases reply with
  | answer status text =>
      cases ho : overruns seconds true with
      | true => simp [within, ho]
      | false => simp [within, ho]
  | crash message => exact absurd rfl (h message)
  | tardy message => simp [within]
  | broken kind message => simp [within]
  | silence => simp [within]

/-! ## The catalogue -/

/-- What a client makes of a reply to the request for the catalogue. -/
def modelsBy (c : Client) (reply : Reply) : Except CallFault (List ModelName) :=
  (c.listModels (.always reply) []).2

theorem listModels_eq (h : c.HasAddress) :
    c.listModels backend past =
      (past ++ [c.catalogueRequest], c.modelsBy (backend past c.catalogueRequest)) := by
  have hnone : ∀ v ∈ (none : Option Json), v.isFinite = true := by simp
  rw [modelsBy, listModels, listModels, exchange_eq h _ _ hnone, exchange_eq h _ _ hnone]
  rfl

/-- Wherever there is an address, the catalogue is asked for. -/
theorem requests_of_listModels {u : Url} (hu : c.address "api/tags" = .ok u) :
    (c.listModels backend past).1 = past ++ [c.catalogueRequest] :=
  requests_of_exchange hu (by simp)

/-- Without an address nothing is asked. -/
theorem listModels_of_address_error {fault : Url.Fault}
    (hu : c.address "api/tags" = .error fault) :
    c.listModels backend past = (past, .error (.breakdown (.url fault))) := by
  rw [listModels, exchange, hu]

/-- A backend that does not crash gives the catalogue or an error of the backend. -/
theorem modelsBy_answers (h : c.HasAddress) (hr : ∀ message, reply ≠ .crash message) :
    ∃ r : Except BackendError (List ModelName), c.modelsBy reply = r.mapError .backend := by
  have hnone : ∀ v ∈ (none : Option Json), v.isFinite = true := by simp
  rw [modelsBy, listModels, exchange_eq h _ _ hnone]
  rcases hw : within c.healthTimeout reply with (_ | message | ⟨kind, message⟩ | b) | ⟨status, body⟩
  · exact ⟨.error (.overdue healthCheck c.healthTimeout.text), by simp [Backend.always, hw]; rfl⟩
  · exact ⟨.error (.timedOut healthCheck message), by simp [Backend.always, hw]; rfl⟩
  · exact ⟨.error (.unreachable (reason kind message)), by simp [Backend.always, hw]; rfl⟩
  · exact absurd hw (within_ne_breakdown hr _ b)
  · by_cases hs : 400 ≤ status
    · exact ⟨.error (.catalogueStatus status), by simp [Backend.always, hw, hs]; rfl⟩
    · exact ⟨catalogue body, by simp [Backend.always, hw, hs]⟩

/-- An answer can only be had at an address. -/
theorem hasAddress_of_exchange {seconds : Binary64} {resource : String} {body : Option Json}
    {answer : Nat × String}
    (h : (c.exchange backend seconds resource body past).2 = .ok answer) : c.HasAddress := by
  rw [exchange] at h
  cases hu : c.address resource with
  | error fault => rw [hu] at h; cases h
  | ok url =>
      -- only an answer at an address with a scheme counts as one
      have hscheme : url.scheme ≠ "" := by
        intro hs
        rw [hu] at h
        simp only [hs, if_true] at h
        split at h
        · cases h
        · split at h <;> cases h
      rw [address] at hu
      cases hbase : Url.parse c.baseUrl with
      | error fault => rw [hbase] at hu; cases hu
      | ok base =>
          rw [hbase] at hu
          exact ⟨base, hbase, Url.scheme_of_below hu ▸ hscheme⟩

/-- A client that has got the catalogue has an address to ask at. -/
theorem hasAddress_of_listModels {names : List ModelName}
    (h : (c.listModels backend past).2 = .ok names) : c.HasAddress := by
  rw [listModels] at h
  rcases he : c.exchange backend c.healthTimeout "api/tags" none past with ⟨past', e | answer⟩
  · rw [he] at h
    cases e <;> cases h
  · exact hasAddress_of_exchange (congrArg Prod.snd he)

theorem hasAddress_nearby : nearby.HasAddress := by
  have hscheme : (Url.parse nearby.baseUrl).toOption.map Url.scheme = some "http" := by
    decide +kernel
  obtain ⟨u, hu, hs⟩ := Option.map_eq_some_iff.mp hscheme
  exact ⟨u, ok_of_toOption hu, by rw [hs]; decide⟩

/-! ## Chats -/

/-- What a client makes of a reply to the request for a chat. -/
def chatBy (c : Client) (messages : Json) (model : String) (reply : Reply) :
    Except CallFault String :=
  (c.chat (.always reply) model messages none []).2

/-- The document that asks for a chat can be written: no number in it is out of range. -/
theorem isFinite_chatBody (model : String) (hm : messages.isFinite = true)
    (ht : c.temperature.isFinite = true) :
    ∀ v ∈ some (chatBody model messages (.float c.temperature)), v.isFinite = true := by
  rintro v ⟨rfl⟩
  simp [chatBody, Json.isFinite, Json.allFieldsFinite, hm, ht]

theorem chat_eq (h : c.HasAddress) (ht : c.temperature.isFinite = true)
    (hm : messages.isFinite = true) :
    c.chat backend model messages none past =
      (past ++ [c.chatRequest messages model],
        c.chatBy messages model (backend past (c.chatRequest messages model))) := by
  have hbody := isFinite_chatBody model hm ht
  rw [chatBy, chat, chat, Option.getD_none, exchange_eq h _ _ hbody, exchange_eq h _ _ hbody]
  rfl

/-- A chat makes its request, or it breaks down because there is none to be written. -/
theorem requests_of_chat (model : String) (h : c.HasAddress) :
    (c.chat backend model messages none past).1 = past ++ [c.chatRequest messages model] ∨
      c.chat backend model messages none past = (past, .error (.breakdown .notFinite)) := by
  obtain ⟨u, hu, -⟩ := address_eq_ok h "api/chat"
  cases hb : (chatBody model messages (.float c.temperature)).isFinite with
  | true => exact .inl (requests_of_exchange hu (by rintro v ⟨rfl⟩; exact hb))
  | false =>
      right
      rw [chat, Option.getD_none, exchange_of_not_finite hu hb]

/-- A backend that does not crash gives a text or an error of the backend. -/
theorem chatBy_answers (model : String) (h : c.HasAddress) (ht : c.temperature.isFinite = true)
    (hm : messages.isFinite = true) (hr : ∀ message, reply ≠ .crash message) :
    ∃ r : Except BackendError String, c.chatBy messages model reply = r.mapError .backend := by
  have hbody := isFinite_chatBody model hm ht
  rw [chatBy, chat, Option.getD_none, exchange_eq h _ _ hbody]
  rcases hw : within c.chatTimeout reply with (_ | message | ⟨kind, message⟩ | b) | ⟨status, body⟩
  · exact ⟨.error (.overdue ("Request to " ++ model) c.chatTimeout.text),
      by simp [Backend.always, hw]; rfl⟩
  · exact ⟨.error (.timedOut ("Request to " ++ model) message), by simp [Backend.always, hw]; rfl⟩
  · exact ⟨.error (.transport model (reason kind message)), by simp [Backend.always, hw]; rfl⟩
  · exact absurd hw (within_ne_breakdown hr _ b)
  · by_cases hs : 400 ≤ status
    · exact ⟨.error (.chatStatus status (detail body)), by simp [Backend.always, hw, hs]; rfl⟩
    · exact ⟨content body, by simp [Backend.always, hw, hs]⟩

/-- Where a chat can be asked for at all, it is its name that keeps a model from being asked. -/
theorem unasked_eq (model : ModelName) (h : c.HasAddress) (ht : c.temperature.isFinite = true)
    (hm : messages.isFinite = true) :
    c.unasked messages model =
      .unencodable (Text.Utf8.encodeFault (chatFront model)) := by
  obtain ⟨u, hu, -⟩ := address_eq_ok h "api/chat"
  simp only [unasked, hu, hm, ht, Bool.and_self, if_true]

end Client
end Triage
