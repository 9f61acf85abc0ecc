import Triage.Proofs.Cascade

/-!
# Consultations end, or stop at a name that cannot be written

A consultation asks for the catalogue, makes the prospects of the candidates up to the first final one,
and goes on (`consult_inSession`). It then tells the verdict, unless all prospects have failed and
there is a model behind them whose name cannot be written: there it breaks down, since the request
cannot be made and nobody deals with that. Both cases together are `Settles`.

For a consultation in the midst of a reading it counts whether it comes to such a model (`ComesTo`),
whatever the catalogue is: an error of the backend, no models at all, or some.
-/

namespace Triage

namespace Cascade

open Attempt

variable {c : Client} {backend : Backend} {messages : Json} {available models : List ModelName}
  {policies : List Policy} {s s₁ s₂ s₃ s' : Session}

theorem isFinite_messages (text : String) (policies : List Policy) :
    (Prompt.messages text policies).isFinite = true := rfl

/-- The prospects of the candidates whose names can be written, in front of one whose name cannot. -/
def prospectsOf (c : Client) (backend : Backend) (messages : Json) (past : List Request)
    (models : List ModelName) : List Attempt :=
  prospects c backend messages past (writable models).1

theorem map_name_prospectsOf (c : Client) (backend : Backend) (messages : Json)
    (past : List Request) (models : List ModelName) :
    (prospectsOf c backend messages past models).map Attempt.name =
      (writable models).1.map Text.points := by
  have hname : Attempt.name = Text.points ∘ Attempt.model := rfl
  rw [hname, ← List.map_map, prospectsOf, map_model_prospects]

section Consultation

variable (text : String) (hc : Run.client.inSession s = (.ok c, s₁))
  (hl : (Run.call (c.listModels backend)).inSession s₁ = (.ok (.ok available), s₂))
  (hne : available ≠ []) (hp : Store.load.inSession s₂ = (.ok policies, s₃))
  (ht : c.temperature.isFinite = true) (hr : backend.Replies)

include hc hl hne hp ht hr

/-- A consultation with a backend that lists some models makes the prospects of the candidates up
to the first final one, and then it goes on. -/
theorem consult_inSession :
    let messages := Prompt.messages text policies
    let models := candidates (Text.points c.model) available
    let made := throughFinal (prospectsOf c backend messages s₃.requests models)
    (consult backend text).inSession s =
      (do
        goOn c messages made (writable models).2
        return (⟨made, ← verdict made⟩ : Consultation)).inSession (after c messages s₃ made) := by
  intro messages models made
  have haddress : c.HasAddress := Client.hasAddress_of_listModels (Run.call_of_run hl).1
  -- every attempt asks for the client again and has to get the one that listed the models
  have hkeeps : Run.Keeps Session.client Store.load :=
    Store.keeps_load (fun _ _ => rfl) fun _ _ => rfl
  have hclient : s₃.client = some c := by
    rw [hkeeps.of_run hp, (Run.call_of_run hl).2]
    exact (Run.client_of_run hc :)
  have hmade : (attempts (attempt backend messages) (writable models).1).inSession s₃ =
      (.ok made, after c messages s₃ made) :=
    attempts_inSession hclient haddress ht (isFinite_messages text policies) hr _
  rw [consult, Run.inSession_bind_ok hc, Run.inSession_bind_ok hl]
  cases available with
  | nil => exact absurd rfl hne
  | cons model rest =>
      dsimp only
      rw [Run.inSession_bind_ok hp, Run.inSession_bind_ok hmade]

/-- It ends with what the prospects amount to, unless it stops at a model. -/
theorem consult_answers_of_not_stopsAt :
    let messages := Prompt.messages text policies
    let models := candidates (Text.points c.model) available
    let prospects := prospectsOf c backend messages s₃.requests models
    (∀ model, ¬ StopsAt models prospects model) →
    (consult backend text).inSession s =
      (.ok ⟨throughFinal prospects, verdictBy policies (throughFinal prospects)⟩,
        after c messages s₃ (throughFinal prospects)) := by
  intro messages models prospects hstops
  have hnext : ∀ model ∈ (writable models).2,
      (throughFinal prospects).any (·.ending.isFinal) = true := by
    intro model hmodel
    by_contra hany
    rw [Bool.not_eq_true, any_throughFinal, any_isFinal_eq_false_iff] at hany
    exact hstops model ⟨hmodel, hany⟩
  obtain ⟨path, hheld⟩ := Store.held_of_load hp
  have hverdict := verdict_inSession (s := after c messages s₃ (throughFinal prospects)) hheld
    (throughFinal prospects)
  rw [consult_inSession text hc hl hne hp ht hr, Run.inSession_bind_ok (goOn_inSession _ _ hnext),
    Run.inSession_bind_ok hverdict]
  rfl

/-- Where it stops, all prospects are made, and nobody deals with the name that is next. -/
theorem consult_breaks_of_stopsAt :
    let messages := Prompt.messages text policies
    let models := candidates (Text.points c.model) available
    let prospects := prospectsOf c backend messages s₃.requests models
    ∀ model, StopsAt models prospects model →
    (consult backend text).inSession s =
      (.error (.breakdown (.unencodable (Text.Utf8.encodeFault (Client.chatFront model)))),
        after c messages s₃ prospects) := by
  intro messages models prospects model hstops
  have haddress : c.HasAddress := Client.hasAddress_of_listModels (Run.call_of_run hl).1
  have hunasked := Client.unasked_eq model haddress ht (isFinite_messages text policies)
  rw [consult_inSession text hc hl hne hp ht hr, throughFinal_of_isRetryable hstops.2, hstops.1,
    Run.inSession_bind_error (goOn_inSession_of_isRetryable model hstops.2), hunasked]

end Consultation

/-- A consultation comes to a model whose name cannot be written: the backend lists models, and all
that are asked before this one fail. -/
def ComesTo (c : Client) (backend : Backend) (messages : Json) (past : List Request)
    (model : ModelName) : Prop :=
  ∃ available, c.modelsBy (backend past c.catalogueRequest) = .ok available ∧
    let models := candidates (Text.points c.model) available
    StopsAt models (prospectsOf c backend messages (past ++ [c.catalogueRequest]) models) model

/-- Where there are no models but the preferred one, there is none that cannot be asked. -/
theorem not_stopsAt_nil {prospects : List Attempt} {model : ModelName} (preferred : String) :
    ¬ StopsAt (candidates (Text.points preferred) []) prospects model := by
  rintro ⟨hnext, -⟩
  simp [candidates, writable, Text.whole?_points] at hnext

section Answering

variable {path : Path} (text : String) (hheld : s.store.held = some (path, policies))
  (hc : Run.client.inSession s = (.ok c, s₁)) (h : c.HasAddress)
  (ht : c.temperature.isFinite = true) (hr : backend.Replies)

include hheld hc h ht hr

/-- What a consultation comes to when the catalogue is read. -/
theorem consult_of_catalogue (hmodels : c.modelsBy (backend s₁.requests c.catalogueRequest) =
    .ok available) (hne : available ≠ []) :
    let messages := Prompt.messages text policies
    let past := s₁.requests ++ [c.catalogueRequest]
    let models := candidates (Text.points c.model) available
    let prospects := prospectsOf c backend messages past models
    ((∀ model, ¬ StopsAt models prospects model) →
      ∃ (found : Consultation) (s' : Session), (consult backend text).inSession s = (.ok found, s')) ∧
    ∀ model, StopsAt models prospects model → ∃ s' : Session,
      (consult backend text).inSession s =
        (.error (.breakdown (.unencodable (Text.Utf8.encodeFault (Client.chatFront model)))), s') := by
  have hlisted : c.listModels backend s₁.requests =
      (s₁.requests ++ [c.catalogueRequest], .ok available) := by
    rw [Client.listModels_eq h, hmodels]
  have hl := Run.inSession_call (s := s₁) (r := .ok available) hlisted
  -- neither having the client nor the call touches the policies held
  have hkeeps : Run.Keeps Session.store Run.client :=
    Run.keeps_client (fun _ _ => rfl) fun _ _ => rfl
  have hheld' : s₁.store.held = some (path, policies) := by rw [hkeeps.of_run hc, hheld]
  have hp := Store.inSession_load_of_held
    (s := { s₁ with requests := s₁.requests ++ [c.catalogueRequest] }) hheld'
  exact ⟨fun hstops => ⟨_, _, consult_answers_of_not_stopsAt text hc hl hne hp ht hr hstops⟩,
    fun model hstops => ⟨_, consult_breaks_of_stopsAt text hc hl hne hp ht hr model hstops⟩⟩

/-- A consultation that comes to a model breaks down. -/
theorem consult_of_comesTo {model : ModelName}
    (hmodel : ComesTo c backend (Prompt.messages text policies) s₁.requests model) :
    ∃ s' : Session, (consult backend text).inSession s =
      (.error (.breakdown (.unencodable (Text.Utf8.encodeFault (Client.chatFront model)))), s') := by
  obtain ⟨available, hmodels, hstops⟩ := hmodel
  have hne : available ≠ [] := by
    rintro rfl
    exact not_stopsAt_nil c.model hstops
  exact (consult_of_catalogue text hheld hc h ht hr hmodels hne).2 model hstops

/-- A backend that fails never ends a run: whatever it replies, there is a verdict, unless the run
comes to a model whose name cannot be written. -/
theorem consult_answers
    (hcomes : ∀ model, ¬ ComesTo c backend (Prompt.messages text policies) s₁.requests model) :
    ∃ (found : Consultation) (s' : Session),
      (consult backend text).inSession s = (.ok found, s') := by
  obtain ⟨r, hmodels⟩ := Client.modelsBy_answers h (hr s₁.requests c.catalogueRequest)
  have hcatalogue : c.listModels backend s₁.requests =
      (s₁.requests ++ [c.catalogueRequest], r.mapError .backend) := by
    rw [Client.listModels_eq h, hmodels]
  have hl := Run.inSession_call hcatalogue
  rcases r with e | available
  · rw [consult, Run.inSession_bind_ok hc, Run.inSession_bind_ok hl]
    exact ⟨_, _, rfl⟩
  · by_cases hne : available = []
    · subst hne
      rw [consult, Run.inSession_bind_ok hc, Run.inSession_bind_ok hl]
      exact ⟨_, _, rfl⟩
    · refine (consult_of_catalogue text hheld hc h ht hr hmodels hne).1 fun model hstops => ?_
      exact hcomes model ⟨available, hmodels, hstops⟩

end Answering

/-- The requests of a consultation before the first chat. -/
theorem requests_of_catalogue (hc : Run.client.inSession s = (.ok c, s₁))
    (hl : (Run.call (c.listModels backend)).inSession s₁ = (.ok (.ok available), s₂))
    (hp : Store.load.inSession s₂ = (.ok policies, s₃)) :
    s₃.requests = s.requests ++ [c.catalogueRequest] := by
  have haddress : c.HasAddress := Client.hasAddress_of_listModels (Run.call_of_run hl).1
  have hload : Run.Keeps Session.requests Store.load :=
    Store.keeps_load (fun _ _ => rfl) fun _ _ => rfl
  have hclient : Run.Keeps Session.requests Run.client :=
    Run.keeps_client (fun _ _ => rfl) fun _ _ => rfl
  rw [hload.of_run hp, (Run.call_of_run hl).2, Client.listModels_eq haddress, hclient.of_run hc]

/-- How a consultation of candidates ends, given their prospects and the attempts made. -/
structure Settles (policies : List Policy) (models : List ModelName)
    (prospects made : List Attempt) (result : Except Failure Consultation) : Prop where
  /-- What it ends with is settled by the attempts. -/
  settled : ∀ found, result = .ok found →
    found.attempts = made ∧ IsSettled policies models prospects made found.verdict
  /-- It ends with something unless it stops at a model. -/
  answers_iff : (∃ found, result = .ok found) ↔ ∀ model, ¬ StopsAt models prospects model
  /-- Where it stops, all models in front have been asked, and it breaks down. -/
  stops : ∀ model, StopsAt models prospects model → made = prospects ∧
    result = .error (.breakdown (.unencodable (Text.Utf8.encodeFault (Client.chatFront model))))

/-- Where a consultation stops, it settles by breaking down. -/
theorem settles_of_stopsAt {prospects : List Attempt} {model : ModelName}
    (h : StopsAt models prospects model) :
    Settles policies models prospects prospects
      (.error (.breakdown (.unencodable (Text.Utf8.encodeFault (Client.chatFront model))))) where
  settled := fun found hfound => by cases hfound
  answers_iff := by
    constructor
    · rintro ⟨found, hfound⟩
      cases hfound
    · exact fun hnone => absurd h (hnone model)
  stops := by
    intro other hother
    rw [Option.some.inj (hother.1.symm.trans h.1)]
    exact ⟨rfl, rfl⟩

/-- Elsewhere it settles by the prospects up to the first final one. -/
theorem settles_of_not_stopsAt {prospects : List Attempt} (hnodup : models.Nodup)
    (hnames : prospects.map Attempt.name = (writable models).1.map Text.points)
    (hnone : ∀ model, ¬ StopsAt models prospects model) :
    Settles policies models prospects (throughFinal prospects)
      (.ok ⟨throughFinal prospects, verdictBy policies (throughFinal prospects)⟩) where
  settled := by
    -- where all prospects fail there is no other model, or else the run would stop at it
    have hall (hfail : ∀ a ∈ prospects, a.IsRetryable) : prospects.map Attempt.name = models := by
      rw [hnames]
      refine map_points_writable (Option.eq_none_iff_forall_not_mem.mpr fun model hmodel => ?_)
      exact hnone model ⟨hmodel, hfail⟩
    have hinitial : prospects.map Attempt.name <+: models :=
      hnames ▸ map_points_writable_initial models
    intro found hfound
    cases hfound
    exact ⟨rfl, isSettled_throughFinal hnodup hinitial hall⟩
  answers_iff := ⟨fun _ => hnone, fun _ => ⟨_, rfl⟩⟩
  stops := fun model hmodel => absurd hmodel (hnone model)

/-- **A consultation asks the candidates in order, each once, up to the first final attempt, and
the last attempt made decides**, unless it stops at a model whose name cannot be written. -/
theorem settles_of_consult (text : String) (hs : s.IsChecked)
    (hc : Run.client.inSession s = (.ok c, s₁))
    (hl : (Run.call (c.listModels backend)).inSession s₁ = (.ok (.ok available), s₂))
    (hne : available ≠ []) (hp : Store.load.inSession s₂ = (.ok policies, s₃))
    (hr : backend.Replies) :
    let models := (Text.points c.model :: available.filter fun m => !isEmbedding m).eraseDups
    let messages := Prompt.messages text policies
    let prospects := prospectsOf c backend messages (s.requests ++ [c.catalogueRequest]) models
    ∃ (made : List Attempt) (result : Except Failure Consultation) (s' : Session),
      (consult backend text).inSession s = (result, s') ∧
      s'.requests = s.requests ++ c.catalogueRequest ::
        made.map (fun a => c.chatRequest messages a.model) ∧
      Settles policies models prospects made result := by
  intro models messages prospects
  have hmodels : candidates (Text.points c.model) available = models :=
    candidates_eq (Text.points c.model) available
  have hnodup : models.Nodup := hmodels ▸ nodup_candidates (Text.points c.model) available
  have hrequests : s₃.requests = s.requests ++ [c.catalogueRequest] :=
    requests_of_catalogue hc hl hp
  have ht : c.temperature.isFinite = true := (Run.isFinite_temperature_of_client hs hc).1
  have hafter (made : List Attempt) : (after c messages s₃ made).requests =
      s.requests ++ c.catalogueRequest :: made.map fun a => c.chatRequest messages a.model := by
    simp only [after, hrequests, List.append_assoc, List.singleton_append]
  have hnames : prospects.map Attempt.name = (writable models).1.map Text.points :=
    map_name_prospectsOf c backend messages _ models
  -- the lemmas on runs speak of the candidates as they are collected, and of the session then
  by_cases hstops : ∃ model, StopsAt models prospects model
  · obtain ⟨model, hstops⟩ := hstops
    have hrun := consult_breaks_of_stopsAt text hc hl hne hp ht hr
    rw [hmodels, hrequests] at hrun
    exact ⟨prospects, _, _, hrun model hstops, hafter prospects, settles_of_stopsAt hstops⟩
  · have hnone : ∀ model, ¬ StopsAt models prospects model := not_exists.mp hstops
    have hrun := consult_answers_of_not_stopsAt text hc hl hne hp ht hr
    rw [hmodels, hrequests] at hrun
    exact ⟨_, _, _, hrun hnone, hafter _, settles_of_not_stopsAt hnodup hnames hnone⟩

/-- The name that is half of a surrogate pair. -/
def halfName : ModelName := [.half ⟨0, by decide⟩]

/-- What a backend lists that has a model of this name. -/
def halvedCatalogue : String := "\x7b\"models\": [\x7b\"name\": \"\\ud800\"\x7d]\x7d"

/-- A backend that lists this, and then gives one other reply. -/
def halvedListed (reply : Reply) : Backend := .replying [.answer 200 halvedCatalogue, reply]

/-- What is asked for, the preferred model first. -/
def halvedModels : List ModelName := [Text.points "llama3:latest", halfName]

theorem modelsBy_halvedCatalogue :
    Client.nearby.modelsBy (.answer 200 halvedCatalogue) = .ok [halfName] :=
  ok_of_toOption (by decide +kernel)

theorem inSession_call_halvedListed (reply : Reply) :
    (Run.call (Client.nearby.listModels (halvedListed reply))).inSession (.holding .nearby []) =
      (.ok (.ok [halfName]),
        { Session.holding .nearby [] with requests := [Client.nearby.catalogueRequest] }) := by
  have hreply : halvedListed reply [] Client.nearby.catalogueRequest =
      .answer 200 halvedCatalogue := rfl
  have hlisted : Client.nearby.listModels (halvedListed reply) [] =
      ([Client.nearby.catalogueRequest], .ok [halfName]) := by
    rw [Client.listModels_eq Client.hasAddress_nearby, hreply, modelsBy_halvedCatalogue]
    rfl
  exact Run.inSession_call (r := .ok _) hlisted

theorem replies_halvedListed {reply : Reply} (h : ∀ message, reply ≠ .crash message) :
    (halvedListed reply).Replies := by
  refine Backend.replies_replying fun message hmem => ?_
  rcases List.mem_cons.mp hmem with hcrash | hmem
  · cases hcrash
  · exact h message (List.mem_singleton.mp hmem).symm

theorem eraseDups_halved :
    (Text.points Client.nearby.model :: [halfName].filter fun m => !isEmbedding m).eraseDups =
      halvedModels := by decide +kernel

/-- The reply of a model that sees no alert in a text. -/
def declining : Reply := .saying "\x7b\"alert_type\": null\x7d"

/-- When the preferred model declines, it does not matter that the other one cannot be asked. -/
theorem not_stopsAt_declining (model : ModelName) :
    ¬ StopsAt halvedModels
      (prospectsOf .nearby (halvedListed declining) (Prompt.messages "disk full" [])
        ([] ++ [Client.nearby.catalogueRequest]) halvedModels) model := by
  intro hstops
  have hfinal : ((prospectsOf .nearby (halvedListed declining) (Prompt.messages "disk full" [])
      ([] ++ [Client.nearby.catalogueRequest]) halvedModels).any (·.ending.isFinal)) = true := by
    decide +kernel
  rw [any_isFinal_eq_false_iff.mpr hstops.2] at hfinal
  cases hfinal

theorem replies_declining : (halvedListed declining).Replies :=
  replies_halvedListed (by simp [declining, Reply.saying])

theorem settles_of_consult_halvedListed :
    let prospects := prospectsOf .nearby (halvedListed declining) (Prompt.messages "disk full" [])
      ([] ++ [Client.nearby.catalogueRequest]) halvedModels
    (∃ (made : List Attempt) (result : Except Failure Consultation) (s' : Session),
      (consult (halvedListed declining) "disk full").inSession (.holding .nearby []) =
        (result, s') ∧
      s'.requests = [] ++ Client.nearby.catalogueRequest ::
        made.map (fun a => Client.nearby.chatRequest (Prompt.messages "disk full" []) a.model) ∧
      Settles [] halvedModels prospects made result) ∧
      ∀ model, ¬ StopsAt halvedModels prospects model := by
  have hsettles := settles_of_consult "disk full"
    (Session.isChecked_holding (c := .nearby) rfl []) (Run.inSession_client_of_some rfl)
    (inSession_call_halvedListed declining) (by simp) (Store.inSession_load_of_held rfl)
    replies_declining
  exact ⟨eraseDups_halved ▸ hsettles, not_stopsAt_declining⟩

/-- Where the preferred model is not there, the run comes to the other one. -/
theorem comesTo_halvedListed : ComesTo .nearby (halvedListed (.answer 404 ""))
    (Prompt.messages "disk full" []) [] halfName := by
  have hnone : ((prospectsOf .nearby (halvedListed (.answer 404 ""))
      (Prompt.messages "disk full" []) [Client.nearby.catalogueRequest] halvedModels).any
        (·.ending.isFinal)) = false := by decide +kernel
  refine ⟨[halfName], modelsBy_halvedCatalogue, ?_⟩
  rw [candidates_eq, eraseDups_halved]
  exact ⟨rfl, any_isFinal_eq_false_iff.mp hnone⟩

/-- **A name that cannot be written can leave a consultation without any of the ends there are.** -/
theorem breaks_halvedListed :
    (Run.call (Client.nearby.listModels (halvedListed (.answer 404 "")))).inSession
        (.holding .nearby []) =
      (.ok (.ok [halfName]),
        { Session.holding .nearby [] with requests := [Client.nearby.catalogueRequest] }) ∧
      (halvedListed (.answer 404 "")).Replies ∧
      ¬ ∃ (found : Consultation) (s' : Session),
        (consult (halvedListed (.answer 404 "")) "disk full").inSession (.holding .nearby []) =
          (.ok found, s') := by
  refine ⟨inSession_call_halvedListed _, replies_halvedListed (by simp), ?_⟩
  rintro ⟨found, s', hfound⟩
  have hheld : (Session.holding .nearby []).store.held = some ([], []) := rfl
  have hclient : Run.client.inSession (.holding .nearby []) =
      (.ok .nearby, .holding .nearby []) := Run.inSession_client_of_some rfl
  obtain ⟨t, hbreaks⟩ := consult_of_comesTo "disk full" hheld hclient Client.hasAddress_nearby rfl
    (replies_halvedListed (by simp)) comesTo_halvedListed
  rw [hbreaks] at hfound
  cases hfound

end Cascade
end Triage
