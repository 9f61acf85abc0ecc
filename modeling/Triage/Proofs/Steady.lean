import Triage.Proofs.Walk

/-!
# What a session offers

The configuration, the policies and the client are had when they are first asked for, and kept from
then on, so a session changes with every question. What does not change is what would be had by
asking (`Session.offer`): a slot is only ever filled with what was on offer for it before.

A step is *steady* (`Run.IsSteady`) if it keeps the offer and, over a stateless backend, its outcome
depends on nothing but the offer. Steadiness is closed under running one step after another, so that
only the steps that look at a session have to be opened. There are four of them: those that have the
configuration, the policies and the client, and the call of the backend.
-/

namespace Triage

/-- What a backend replies does not depend on what it was asked before. -/
def Backend.IsStateless (backend : Backend) : Prop :=
  ∀ (past past' : List Request) (request : Request), backend past request = backend past' request

/-- What is had from a session by asking for it. -/
structure Offer where
  config : Except Failure Config
  policies : Except Failure (List Policy)
  client : Except Failure Client

namespace Session

variable {s : Session} {config : Config} {path : Path} {built : List Policy}

/-- The configuration in force, or else the one that the surroundings give. -/
def configOffered (s : Session) : Except Failure Config :=
  match s.config with
  | some config => .ok config
  | none => s.place.config

/-- The policy file that is asked for, here or in the configuration. -/
def fileWanted (s : Session) : Except Failure (Option String) :=
  match s.store.override.filter (· ≠ "") with
  | some path => .ok (some path)
  | none => do return (← s.configOffered).policiesPath.filter (· ≠ "")

/-- The policy file: the one asked for, or else one at a usual place. -/
def fileOffered (s : Session) : Except Failure Path := do
  match ← s.fileWanted with
  | some path => return Path.resolve s.place.directory (← s.place.expand path)
  | none => Store.usual s.place

/-- The policies held, or else those of the policy file. -/
def policiesOffered (s : Session) : Except Failure (List Policy) :=
  match s.store.held with
  | some (_, policies) => .ok policies
  | none => do Policies.ofFile s.place.files (← s.fileOffered)

/-- The client, or else the one that the configuration makes. -/
def clientOffered (s : Session) : Except Failure Client :=
  match s.client with
  | some client => .ok client
  | none => do return Client.make (← s.configOffered).backend none none

/-- What a session offers. -/
def offer (s : Session) : Offer := ⟨s.configOffered, s.policiesOffered, s.clientOffered⟩

/-! ## Slots filled with what was on offer -/

theorem offer_fill_config (h : s.configOffered = .ok config) :
    { s with config := some config }.offer = s.offer := by
  have hfile : { s with config := some config }.fileOffered = s.fileOffered := by
    rw [fileOffered, fileOffered, fileWanted, fileWanted, h]
    rfl
  rw [offer, offer, policiesOffered, policiesOffered, hfile, clientOffered, clientOffered, h]
  rfl

theorem offer_fill_policies (h : s.policiesOffered = .ok built) (path : Path) :
    { s with store := { s.store with held := some (path, built) } }.offer = s.offer := by
  rw [offer, offer, h]
  rfl

theorem offer_fill_client {c : Client} (h : s.clientOffered = .ok c) :
    { s with client := some c }.offer = s.offer := by
  rw [offer, offer, h]
  rfl

end Session

namespace Run

variable {α β : Type} {s s' : Session}

/-! ## Asking a session -/

/-- Asking for the configuration, one gets what is on offer, and it is in force from then on. -/
theorem inSession_config (s : Session) :
    config.inSession s =
      match s.configOffered with
      | .ok config => (.ok config, { s with config := some config })
      | .error e => (.error e, s) := by
  obtain ⟨place, filled, store, client, requests, journal, context⟩ := s
  rw [config, inSession_bind_ok (inSession_get _), Session.configOffered]
  cases filled with
  | some config => rfl
  | none =>
      dsimp only
      rw [reconfigure, inSession_bind_ok (inSession_get _)]
      cases place.config with
      | error e => rfl
      | ok config => rfl

/-- A step keeps what a session offers, and over a stateless backend its outcome depends on nothing
else. -/
structure IsSteady (backend : Backend) (x : Run α) : Prop where
  keeps : Keeps Session.offer x
  same : backend.IsStateless → ∀ s t : Session, s.offer = t.offer →
    (x.inSession s).1 = (x.inSession t).1

variable {backend : Backend}

theorem isSteady_pure (a : α) : IsSteady backend (pure a : Run α) :=
  ⟨keeps_pure a, fun _ _ _ _ => rfl⟩

theorem isSteady_lift (x : Except Failure α) : IsSteady backend (liftM x : Run α) :=
  ⟨keeps_lift x, fun _ s t _ => by rw [inSession_lift, inSession_lift]⟩

theorem isSteady_modify {f : Session → Session} (h : ∀ s, (f s).offer = s.offer) :
    IsSteady backend (modify f : Run Unit) :=
  ⟨keeps_modify h, fun _ _ _ _ => rfl⟩

theorem isSteady_note (event : Event) : IsSteady backend (note event) :=
  isSteady_modify fun _ => rfl

/-- The second step is run where the first one ends, and that offers the same. -/
theorem isSteady_bind {x : Run α} {f : α → Run β} (hx : IsSteady backend x)
    (hf : ∀ a, IsSteady backend (f a)) : IsSteady backend (x >>= f) where
  keeps := keeps_bind hx.keeps fun a => (hf a).keeps
  same := by
    intro hb s t h
    have hsame := hx.same hb s t h
    rcases hs : x.inSession s with ⟨o, s'⟩
    rcases ht : x.inSession t with ⟨o', t'⟩
    rw [hs, ht] at hsame
    obtain rfl : o = o' := hsame
    have hoffer : s'.offer = t'.offer := by rw [hx.keeps.of_run hs, hx.keeps.of_run ht, h]
    cases o with
    | error e => rw [inSession_bind_error hs, inSession_bind_error ht]
    | ok a =>
        rw [inSession_bind_ok hs, inSession_bind_ok ht]
        exact (hf a).same hb s' t' hoffer

/-- A step is steady if what it gives is read off the offer. -/
theorem isSteady_of_offer {x : Run α} (get : Offer → Except Failure α)
    (h : ∀ (s s' : Session) (o : Except Failure α), x.inSession s = (o, s') →
      o = get s.offer ∧ s'.offer = s.offer) : IsSteady backend x where
  keeps := fun s => (h s _ _ rfl).2
  same := by
    intro _ s t hst
    have hs : (x.inSession s).1 = get s.offer := (h s _ _ rfl).1
    have ht : (x.inSession t).1 = get t.offer := (h t _ _ rfl).1
    rw [hs, ht, hst]

theorem offer_of_config {o : Except Failure Config} (h : config.inSession s = (o, s')) :
    o = s.configOffered ∧ s'.offer = s.offer := by
  rw [inSession_config] at h
  cases hoffer : s.configOffered with
  | error e =>
      rw [hoffer] at h
      cases h
      exact ⟨rfl, rfl⟩
  | ok config =>
      rw [hoffer] at h
      cases h
      exact ⟨rfl, Session.offer_fill_config hoffer⟩

theorem isSteady_config : IsSteady backend config :=
  isSteady_of_offer Offer.config fun _ _ _ => offer_of_config

theorem offer_of_client {o : Except Failure Client} (h : client.inSession s = (o, s')) :
    o = s.clientOffered ∧ s'.offer = s.offer := by
  rw [client, inSession_bind_ok (inSession_get s)] at h
  cases hs : s.client with
  | some c =>
      rw [hs] at h
      cases h
      rw [Session.clientOffered, hs]
      exact ⟨rfl, rfl⟩
  | none =>
      rw [hs] at h
      have hoffered : s.clientOffered =
          s.configOffered.map fun config => Client.make config.backend none none := by
        rw [Session.clientOffered, hs]
        cases s.configOffered <;> rfl
      rcases hconfig : config.inSession s with ⟨e | config, t⟩
      · rw [inSession_bind_error hconfig] at h
        cases h
        obtain ⟨he, hoffer⟩ := offer_of_config hconfig
        exact ⟨by rw [hoffered, ← he]; rfl, hoffer⟩
      · rw [inSession_bind_ok hconfig] at h
        cases h
        obtain ⟨hc, hoffer⟩ := offer_of_config hconfig
        have hmade : s.clientOffered = .ok (Client.make config.backend none none) := by
          rw [hoffered, ← hc]
          rfl
        have hmade' : t.clientOffered = .ok (Client.make config.backend none none) :=
          (congrArg Offer.client hoffer).trans hmade
        exact ⟨hmade.symm, (Session.offer_fill_client hmade').trans hoffer⟩

theorem isSteady_client : IsSteady backend client :=
  isSteady_of_offer Offer.client fun _ _ _ => offer_of_client

end Run

namespace Store

variable {s s' : Session} {backend : Backend}

theorem offer_of_wanted {o : Except Failure (Option String)}
    (h : (wanted s.store.override).inSession s = (o, s')) :
    o = s.fileWanted ∧ s'.offer = s.offer := by
  rw [wanted] at h
  rw [Session.fileWanted]
  cases hpath : s.store.override.filter (· ≠ "") with
  | some path =>
      rw [hpath] at h
      cases h
      exact ⟨rfl, rfl⟩
  | none =>
      rw [hpath] at h
      dsimp only at h ⊢
      rcases hconfig : Run.config.inSession s with ⟨e | config, t⟩
      all_goals obtain ⟨hc, hoffer⟩ := Run.offer_of_config hconfig
      · rw [Run.inSession_bind_error hconfig] at h
        cases h
        exact ⟨by rw [← hc]; rfl, hoffer⟩
      · rw [Run.inSession_bind_ok hconfig] at h
        cases h
        exact ⟨by rw [← hc]; rfl, hoffer⟩

theorem offer_of_locate {o : Except Failure Path}
    (h : (locate s.store.override).inSession s = (o, s')) :
    o = s.fileOffered ∧ s'.offer = s.offer := by
  have hkeeps : Run.Keeps Session.place (wanted s.store.override) :=
    keeps_wanted (fun _ _ => rfl) _
  rw [locate] at h
  rw [Session.fileOffered]
  rcases hwanted : (wanted s.store.override).inSession s with ⟨e | path, t⟩
  all_goals obtain ⟨hw, hoffer⟩ := offer_of_wanted hwanted
  · rw [Run.inSession_bind_error hwanted] at h
    cases h
    exact ⟨by rw [← hw]; rfl, hoffer⟩
  · rw [Run.inSession_bind_ok hwanted] at h
    rw [← hw, ← hkeeps.of_run hwanted]
    cases path with
    | some path =>
        dsimp only at h
        rw [Run.inSession_bind_ok (Run.inSession_get t), Run.inSession_bind, Run.inSession_lift] at h
        dsimp only [bind, Except.bind]
        cases hexpand : t.place.expand path with
        | error e =>
            rw [hexpand] at h
            cases h
            exact ⟨rfl, hoffer⟩
        | ok expanded =>
            rw [hexpand] at h
            cases h
            exact ⟨rfl, hoffer⟩
    | none =>
        dsimp only at h
        rw [Run.inSession_bind_ok (Run.inSession_get t), Run.inSession_lift] at h
        cases h
        exact ⟨rfl, hoffer⟩

theorem offer_of_load {o : Except Failure (List Policy)} (h : load.inSession s = (o, s')) :
    o = s.policiesOffered ∧ s'.offer = s.offer := by
  rcases hheld : s.store.held with _ | ⟨path, policies⟩
  · have hoffered : s.policiesOffered = s.fileOffered >>= Policies.ofFile s.place.files := by
      rw [Session.policiesOffered, hheld]
    rw [inSession_load_of_empty hheld, reload, Run.inSession_bind_ok (Run.inSession_get s)] at h
    rcases hlocate : (locate s.store.override).inSession s with ⟨e | path, t⟩
    · obtain ⟨he, hoffer⟩ := offer_of_locate hlocate
      rw [Run.inSession_bind_error hlocate] at h
      cases h
      exact ⟨by rw [hoffered, ← he]; rfl, hoffer⟩
    · obtain ⟨hpath, hoffer⟩ := offer_of_locate hlocate
      have hkeeps : Run.Keeps Session.place (locate s.store.override) :=
        keeps_locate (fun _ _ => rfl) _
      have hplace : t.place = s.place := hkeeps.of_run hlocate
      have hread : s.policiesOffered = Policies.ofFile t.place.files path := by
        rw [hoffered, ← hpath, hplace]
        rfl
      rw [Run.inSession_bind_ok hlocate, Run.inSession_bind_ok (Run.inSession_get t)] at h
      cases hfile : Policies.ofFile t.place.files path with
      | error e =>
          rw [hfile] at h hread
          cases h
          exact ⟨hread.symm, hoffer⟩
      | ok built =>
          rw [hfile] at h hread
          cases h
          have hread' : t.policiesOffered = .ok built :=
            (congrArg Offer.policies hoffer).trans hread
          exact ⟨hread.symm, (Session.offer_fill_policies hread' path).trans hoffer⟩
  · rw [inSession_load_of_held hheld] at h
    cases h
    rw [Session.policiesOffered, hheld]
    exact ⟨rfl, rfl⟩

theorem isSteady_load : Run.IsSteady backend load :=
  Run.isSteady_of_offer Offer.policies fun _ _ _ => offer_of_load

end Store

/-! ## Calls of a stateless backend -/

namespace Client

variable {c : Client} {backend : Backend}

theorem exchange_congr (hb : backend.IsStateless) (seconds : Binary64) (resource : String)
    (body : Option Json) (past past' : List Request) :
    (c.exchange backend seconds resource body past).2 =
      (c.exchange backend seconds resource body past').2 := by
  rw [exchange, exchange]
  cases c.address resource with
  | error fault => rfl
  | ok url =>
      dsimp only
      rw [hb past past']
      split <;> rfl

theorem listModels_congr (hb : backend.IsStateless) (past past' : List Request) :
    (c.listModels backend past).2 = (c.listModels backend past').2 := by
  rw [listModels, listModels]
  dsimp only
  rw [exchange_congr hb _ _ _ past past']

theorem chat_congr (hb : backend.IsStateless) (model : String) (messages : Json)
    (temperature : Option Json) (past past' : List Request) :
    (c.chat backend model messages temperature past).2 =
      (c.chat backend model messages temperature past').2 := by
  rw [chat, chat]
  dsimp only
  rw [exchange_congr hb _ _ _ past past']

end Client

namespace Run

variable {α : Type} {backend : Backend}

theorem isSteady_call {f : List Request → Outcome α}
    (hf : backend.IsStateless → ∀ past past' : List Request, (f past).2 = (f past').2) :
    IsSteady backend (call f) where
  keeps := keeps_call (fun _ _ => rfl) f
  same := by
    intro hb s t _
    have hsame := hf hb s.requests t.requests
    rcases hs : f s.requests with ⟨past, r⟩
    rcases ht : f t.requests with ⟨past', r'⟩
    rw [hs, ht] at hsame
    obtain rfl : r = r' := hsame
    rw [call, inSession_bind_ok (inSession_get s), inSession_bind_ok (inSession_get t), hs, ht]
    rcases r with (e | b) | a <;> rfl

end Run

/-! ## Readings -/

theorem Run.isWhollyClosed_isSteady (backend : Backend) : IsWhollyClosed backend (IsSteady backend) where
  pure := isSteady_pure
  bind := isSteady_bind
  note := isSteady_note
  client := isSteady_client
  load := Store.isSteady_load
  listModels := fun _ => isSteady_call fun hb => Client.listModels_congr hb
  chat := fun _ _ _ => isSteady_call fun hb => Client.chat_congr hb _ _ _
  breakdown := fun _ => isSteady_lift (.error _)

namespace Reading

variable {backend : Backend}

theorem isSteady_denylist (given : Option (List String)) :
    Run.IsSteady backend (denylist given) := by
  cases given with
  | some denied => exact Run.isSteady_pure denied
  | none => exact Run.isSteady_bind Run.isSteady_config fun _ => Run.isSteady_pure _

/-- **A reading is steady.** -/
theorem isSteady_ofText (given : Option (List String)) (text : String) :
    Run.IsSteady backend (ofText backend given text) :=
  (Run.isWhollyClosed_isSteady backend).ofText (isSteady_denylist given) Run.isSteady_lift text

end Reading

end Triage
