import Triage.Proofs.Independence
import Triage.Proofs.Likeness
import Triage.Proofs.Steady

/-!
# Readings under alike configurations

Once a configuration is in force the environment is not read any more, and of the list of the alert
types that are never returned nothing counts but which types it names. So a reading ends in the same
way under an alike configuration and in another environment (`Reading.alike_ofText`).

Two steps agree (`Run.Agree`) if the second one does under the one configuration what the first one
does under the other, and neither changes the configuration in force. Only steps that look at a
session for its configuration or at the denylist are two different ones; everything else agrees with
itself, and `Run.IsWhollyClosed` has that of it all.
-/

namespace Triage

variable {c c' : Config} {env : Environment}

/-- A session with another configuration in force, and in another environment. -/
def Session.under (s : Session) (c : Config) (env : Environment) : Session :=
  { s with config := some c, place := { s.place with env } }

namespace Run

variable {α β : Type} {x x' : Run α} {s : Session}

/-- In a session with `c` in force the first step does what the second one does with `c'` in force
and in the environment `env`, and `c` stays in force. -/
def Agree (c c' : Config) (env : Environment) (x x' : Run α) : Prop :=
  ∀ s : Session, s.config = some c →
    (x.inSession s).2.config = some c ∧
      x'.inSession (s.under c' env) = ((x.inSession s).1, (x.inSession s).2.under c' env)

theorem agree_pure (a : α) : Agree c c' env (pure a : Run α) (pure a) := fun _ hs => ⟨hs, rfl⟩

theorem agree_lift (x : Except Failure α) : Agree c c' env (liftM x : Run α) (liftM x) := by
  intro s hs
  rw [inSession_lift, inSession_lift]
  exact ⟨hs, rfl⟩

theorem agree_modify {f : Session → Session}
    (h : ∀ s, (f s).config = s.config ∧ f (s.under c' env) = (f s).under c' env) :
    Agree c c' env (modify f) (modify f) := by
  intro s hs
  rw [inSession_modify, inSession_modify, (h s).2]
  exact ⟨(h s).1.trans hs, rfl⟩

/-- Steps that agree are gone on from by steps that agree. -/
theorem agree_bind {f f' : α → Run β} (hx : Agree c c' env x x')
    (hf : ∀ a, Agree c c' env (f a) (f' a)) : Agree c c' env (x >>= f) (x' >>= f') := by
  intro s hs
  obtain ⟨hconfig, hrun⟩ := hx s hs
  rcases h : x.inSession s with ⟨e | a, t⟩
  · rw [h] at hconfig hrun
    rw [inSession_bind_error h, inSession_bind_error hrun]
    exact ⟨hconfig, rfl⟩
  · rw [h] at hconfig hrun
    rw [inSession_bind_ok h, inSession_bind_ok hrun]
    exact hf a t hconfig

/-- Steps agree that go on from the session, each from its own. -/
theorem agree_get_bind {f f' : Session → Run β}
    (hf : ∀ s : Session, s.config = some c → Agree c c' env (f s) (f' (s.under c' env))) :
    Agree c c' env (get >>= f) (get >>= f') := by
  intro s hs
  rw [inSession_bind_ok (inSession_get s), inSession_bind_ok (inSession_get (s.under c' env))]
  exact hf s hs s hs

theorem inSession_config_of_some (h : s.config = some c) : config.inSession s = (.ok c, s) := by
  rw [config, inSession_bind_ok (inSession_get s), h]
  rfl

/-- Where no configuration is in force, having it is building it. -/
theorem inSession_config_of_none (h : s.config = none) :
    config.inSession s = reconfigure.inSession s := by
  rw [config, inSession_bind_ok (inSession_get s), h]

/-- Steps agree that go on from the configuration in force, each from its own. -/
theorem agree_config_bind {f f' : Config → Run β} (hf : Agree c c' env (f c) (f' c')) :
    Agree c c' env (config >>= f) (config >>= f') := by
  intro s hs
  have hs' : (s.under c' env).config = some c' := rfl
  rw [inSession_bind_ok (inSession_config_of_some hs),
    inSession_bind_ok (inSession_config_of_some hs')]
  exact hf s hs

theorem agree_call (f : List Request → Outcome α) : Agree c c' env (call f) (call f) := by
  refine agree_get_bind fun s _ => ?_
  have hrequests : (s.under c' env).requests = s.requests := rfl
  rw [hrequests]
  rcases f s.requests with ⟨requests, (e | b) | a⟩
  all_goals refine agree_bind (agree_modify fun _ => ⟨rfl, rfl⟩) fun _ => ?_
  · exact agree_pure _
  · exact agree_lift (.error _)
  · exact agree_pure _

theorem agree_client (h : c.Alike c') : Agree c c' env client client := by
  refine agree_get_bind fun s _ => ?_
  have hclient : (s.under c' env).client = s.client := rfl
  rw [hclient]
  cases s.client with
  | some client => exact agree_pure client
  | none =>
      refine agree_config_bind ?_
      rw [h.backend]
      exact agree_bind (agree_modify fun _ => ⟨rfl, rfl⟩) fun _ => agree_pure _

end Run

namespace Store

variable (h : c.Alike c')

include h

theorem agree_wanted (override : Option String) :
    Run.Agree c c' env (wanted override) (wanted override) := by
  rw [wanted]
  cases override.filter (· ≠ "") with
  | some path => exact Run.agree_pure _
  | none =>
      refine Run.agree_config_bind ?_
      rw [h.policiesPath]
      exact Run.agree_pure _

theorem agree_locate (override : Option String) :
    Run.Agree c c' env (locate override) (locate override) := by
  refine Run.agree_bind (agree_wanted h override) fun path => ?_
  cases path with
  | some path =>
      refine Run.agree_get_bind fun s _ => ?_
      exact Run.agree_bind (Run.agree_lift (s.place.expand path)) fun _ => Run.agree_pure _
  | none => exact Run.agree_get_bind fun s _ => Run.agree_lift _

theorem agree_load : Run.Agree c c' env load load := by
  refine Run.agree_get_bind fun s _ => ?_
  have hstore : (s.under c' env).store = s.store := rfl
  rw [hstore]
  rcases s.store.held with _ | ⟨path, policies⟩
  · refine Run.agree_get_bind fun s _ => Run.agree_bind (agree_locate h _) fun path => ?_
    refine Run.agree_get_bind fun t _ => Run.agree_bind (Run.agree_lift _) fun built => ?_
    exact Run.agree_bind (Run.agree_modify fun _ => ⟨rfl, rfl⟩) fun _ => Run.agree_pure built
  · exact Run.agree_pure policies

end Store

/-- Each step of a reading agrees with itself. -/
theorem Run.isWhollyClosed_agree (h : c.Alike c') (backend : Backend) :
    IsWhollyClosed backend fun x => Agree c c' env x x where
  pure := agree_pure
  bind := agree_bind
  note := fun _ => agree_modify fun _ => ⟨rfl, rfl⟩
  client := agree_client h
  load := Store.agree_load h
  listModels := fun _ => agree_call _
  chat := fun _ _ _ => agree_call _
  breakdown := fun _ => agree_lift (.error _)

namespace Reading

variable {backend : Backend} {s s' : Session}

/-! ## The denylist of a reading -/

/-- A reading without a denylist of its own has that of the configuration in force. -/
theorem ofText_none (backend : Backend) (text : String) :
    ofText backend none text =
      Run.config >>= fun c => ofText backend (some c.denylist) text := by
  simp only [ofText, denylist, bind_assoc, pure_bind]

/-- So does one for which it has to be built first; it is in force from then on. -/
theorem ofText_of_offered (h : s.configOffered = .ok c) (backend : Backend) (text : String) :
    (ofText backend none text).inSession s =
      (ofText backend none text).inSession { s with config := some c } := by
  have hconfig : Run.config.inSession s = (.ok c, { s with config := some c }) := by
    rw [Run.inSession_config, h]
  rw [ofText_none, Run.inSession_bind_ok hconfig,
    Run.inSession_bind_ok (Run.inSession_config_of_some rfl)]

/-- Where it cannot be built, there is no reading. -/
theorem ofText_of_offered_error {e : Failure} (h : s.configOffered = .error e)
    (backend : Backend) (text : String) :
    (ofText backend none text).inSession s = (.error e, s) := by
  have hconfig : Run.config.inSession s = (.error e, s) := by
    rw [Run.inSession_config, h]
  rw [ofText_none, Run.inSession_bind_error hconfig]

theorem byPolicy_congr {denied denied' : List String} (h : ∀ x, x ∈ denied ↔ x ∈ denied')
    (recognised : Option Recognition) :
    byPolicy denied recognised = byPolicy denied' recognised := by
  cases recognised with
  | none => rfl
  | some r => simp only [byPolicy, h]

theorem byModel_congr {denied denied' : List String} (h : ∀ x, x ∈ denied ↔ x ∈ denied')
    (recognised : Option Policy) (reason : String) (verdict : Verdict) :
    byModel denied recognised reason verdict = byModel denied' recognised reason verdict := by
  cases verdict with
  | alert alert policy model => simp only [byModel, h]
  | none model said => rfl
  | failed said => rfl

/-- A denylist is a set: neither the order of the alert types counts nor how often they come. -/
theorem ofText_congr {denied denied' : List String} (h : ∀ x, x ∈ denied ↔ x ∈ denied')
    (backend : Backend) (text : String) :
    ofText backend (some denied) text = ofText backend (some denied') text := by
  simp only [ofText, denylist, pure_bind, byPolicy_congr h, byModel_congr h]

theorem agree_ofText (h : c.Alike c') (env : Environment) (backend : Backend) (text : String) :
    Run.Agree c c' env (ofText backend none text) (ofText backend none text) := by
  rw [ofText_none]
  refine Run.agree_config_bind ?_
  rw [← ofText_congr h.mem_denylist_iff]
  exact (Run.isWhollyClosed_agree h backend).ofText (Run.agree_pure _) Run.agree_lift text

/-- A reading does not change the configuration in force. -/
theorem config_of_ofText (hs : s.config = some c) (backend : Backend) (text : String) :
    ((ofText backend none text).inSession s).2.config = some c :=
  (agree_ofText (.refl c) s.place.env backend text s hs).1

theorem keeps_place_ofText (backend : Backend) (given : Option (List String)) (text : String) :
    Run.Keeps Session.place (ofText backend given text) := by
  have hclosed : Run.IsWhollyClosed backend (Run.Keeps Session.place) :=
    Run.isWhollyClosed_keeps (fun _ _ => rfl) (fun _ _ => rfl) (fun _ _ => rfl) (fun _ _ => rfl)
      (fun _ _ => rfl) backend
  exact hclosed.ofText (keeps_denylist (fun _ _ => rfl) given) Run.keeps_lift text

end Reading

/-! ## Alike sessions -/

/-- The sessions differ at most in how their surroundings and the configurations in force list the
same alert types. -/
structure Session.Alike (s s' : Session) : Prop where
  place : s.place.Alike s'.place
  config : Option.Rel Config.Alike s.config s'.config
  rest : { s' with place := s.place, config := s.config } = s

namespace Session.Alike

variable {s s' : Session}

theorem of_under (hs : s.config = some c) (hc : c.Alike c')
    (hplace : s.place.Alike { s.place with env }) : s.Alike (s.under c' env) where
  place := hplace
  config := by
    rw [hs]
    exact .some hc
  rest := rfl

/-- Alike sessions with configurations in force differ in these and in the environment. -/
theorem eq_under (h : s.Alike s') (hs' : s'.config = some c') :
    s' = s.under c' s'.place.env := by
  have hsession : { s with config := s'.config, place := s'.place } = s' := by
    rw [← h.rest]
  rw [under, ← hs', h.place.eq_env, hsession]

/-- What alike sessions have in force, or else build, comes to the same. -/
theorem configOffered (h : s.Alike s') :
    Likewise Config.Alike s.configOffered s'.configOffered := by
  have hconfig := h.config
  unfold Session.configOffered
  generalize s.config = held, s'.config = held' at hconfig
  cases hconfig with
  | some hc => exact .ok hc
  | none => exact Surroundings.config_alike h.place

/-- They stay alike with alike configurations in force. -/
theorem withConfig (h : s.Alike s') (hc : c.Alike c') :
    Session.Alike { s with config := some c } { s' with config := some c' } where
  place := h.place
  config := .some hc
  rest := by
    rw [← h.rest]

end Session.Alike

/-- **A reading of alike sessions ends in the same way**, and leaves them alike. -/
theorem Reading.alike_ofText {s s' : Session} (h : s.Alike s') (backend : Backend) (text : String) :
    ((ofText backend none text).inSession s).1 = ((ofText backend none text).inSession s').1 ∧
      ((ofText backend none text).inSession s).2.Alike
        ((ofText backend none text).inSession s').2 := by
  have hoffered := h.configOffered
  cases hs : s.configOffered with
  | error e =>
      rw [hs] at hoffered
      generalize hs' : s'.configOffered = offered at hoffered
      cases hoffered
      rw [ofText_of_offered_error hs, ofText_of_offered_error hs']
      exact ⟨rfl, h⟩
  | ok c =>
      rw [hs] at hoffered
      generalize hs' : s'.configOffered = offered at hoffered
      cases hoffered with
      | @ok _ c' hc =>
          have ht := h.withConfig hc
          obtain ⟨hconfig, hrun⟩ := agree_ofText hc s'.place.env backend text
            { s with config := some c } rfl
          rw [ofText_of_offered hs, ofText_of_offered hs', ht.eq_under rfl, hrun]
          refine ⟨rfl, .of_under hconfig hc ?_⟩
          rw [keeps_place_ofText backend none text, h.place.eq_env]
          exact h.place

end Triage
