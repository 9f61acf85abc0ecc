import Triage.Proofs.Origin
import Triage.Proofs.Steady

/-!
# Where a fault of the policies comes from

A reading can fail for many reasons: the backend breaks down, the settings are invalid, a file cannot
be decoded. A fault of the policies is told apart from all of these, and it is never a stand-in for one
of them. A step *spares* the policies (`Run.Spares`) if it does not fail through them, whatever else
becomes of it; that is closed under running one step after another, and where the policies are held a
whole consultation spares them (`Cascade.spares_consult`).

What remains are two places: recognising a text, and completing an alert (`Reading.SpoiltBy`). A reading
fails through the policies exactly there.
-/

namespace Triage

theorem Surroundings.config_ne_policies (place : Surroundings) (fault : PolicyFault) :
    place.config ≠ .error (.policies fault) := by
  intro h
  rw [config] at h
  rcases bind_eq_error_iff.mp h with hsettings | ⟨content, -, hload⟩
  · rw [settings] at hsettings
    split at hsettings
    · rename_i bytes _
      cases hdecode : Text.Utf8.decode bytes with
      | ok content => rw [hdecode] at hsettings; cases hsettings
      | error fault => rw [hdecode] at hsettings; cases hsettings
    · cases hsettings
  · cases hconfig : Config.load place.env content with
    | ok config => rw [hconfig] at hload; cases hload
    | error invalid => rw [hconfig] at hload; cases hload

namespace Run

variable {α β : Type} {s s' : Session}

/-! ## Steps that spare the policies -/

/-- A step does not fail through a fault of the policies. -/
def Spares (x : Run α) (s : Session) : Prop :=
  ∀ fault s', x.inSession s ≠ (.error (.policies fault), s')

theorem spares_of_ok {x : Run α} {a : α} (h : x.inSession s = (.ok a, s')) : Spares x s := by
  intro fault t ht
  rw [h] at ht
  cases ht

theorem spares_pure (a : α) (s : Session) : Spares (pure a) s := spares_of_ok (inSession_pure a s)

/-- The second step has to spare them only where it is taken. -/
theorem spares_bind {x : Run α} {f : α → Run β} (hx : Spares x s)
    (hf : ∀ a t, x.inSession s = (.ok a, t) → Spares (f a) t) : Spares (x >>= f) s := by
  intro fault s' h
  rcases bind_eq_error_iff.mp h with h | ⟨a, t, ha, h⟩
  · exact hx fault s' h
  · exact hf a t ha fault s' h

theorem spares_config (s : Session) : Spares config s := by
  intro fault s' h
  rw [inSession_config, Session.configOffered] at h
  cases hs : s.config with
  | some config =>
      rw [hs] at h
      cases h
  | none =>
      rw [hs] at h
      dsimp only at h
      split at h
      · cases h
      · rename_i e he
        obtain rfl := Except.error.inj (Prod.mk.inj h).1
        exact s.place.config_ne_policies fault he

theorem spares_client (s : Session) : Spares client s := by
  refine spares_bind (spares_of_ok (inSession_get s)) fun s₁ t ht => ?_
  cases s₁.client with
  | some c => exact spares_pure c t
  | none =>
      refine spares_bind (spares_config t) fun config u _ => ?_
      exact spares_bind (spares_of_ok (inSession_modify _ u)) fun _ v _ => spares_pure _ v

/-- What a call fails by is a breakdown. -/
theorem spares_call (f : List Request → Outcome α) (s : Session) : Spares (call f) s := by
  intro fault s' h
  rcases hf : f s.requests with ⟨past, (e | b) | a⟩
  · rw [inSession_call (r := .error e) hf] at h
    cases h
  · rw [inSession_call_of_breakdown hf] at h
    cases h
  · rw [inSession_call (r := .ok a) hf] at h
    cases h

variable {path : Path} {policies : List Policy}

/-- Where these policies are held, a step spares them and goes on holding them. -/
def SparesHeld (path : Path) (policies : List Policy) (x : Run α) : Prop :=
  ∀ s, s.store.held = some (path, policies) →
    Spares x s ∧ (x.inSession s).2.store.held = some (path, policies)

theorem sparesHeld_of_keeps {x : Run α} (hx : ∀ s, Spares x s) (hkeeps : Keeps Session.store x) :
    SparesHeld path policies x := by
  intro s hs
  refine ⟨hx s, ?_⟩
  rw [hkeeps s, hs]

theorem sparesHeld_bind {x : Run α} {f : α → Run β} (hx : SparesHeld path policies x)
    (hf : ∀ a, SparesHeld path policies (f a)) : SparesHeld path policies (x >>= f) := by
  intro s hs
  obtain ⟨hspares, hheld⟩ := hx s hs
  have hafter (a : α) (t : Session) (h : x.inSession s = (.ok a, t)) :
      Spares (f a) t ∧ ((f a).inSession t).2.store.held = some (path, policies) := by
    rw [h] at hheld
    exact hf a t hheld
  refine ⟨spares_bind hspares fun a t h => (hafter a t h).1, ?_⟩
  rcases h : x.inSession s with ⟨e | a, t⟩
  · rw [inSession_bind_error h]
    rw [h] at hheld
    exact hheld
  · rw [inSession_bind_ok h]
    exact (hafter a t h).2

theorem isWhollyClosed_sparesHeld (backend : Backend) (path : Path) (policies : List Policy) :
    IsWhollyClosed backend (SparesHeld path policies) where
  pure := fun a => sparesHeld_of_keeps (spares_pure a) (keeps_pure a)
  bind := sparesHeld_bind
  note := fun _ => sparesHeld_of_keeps (fun _ => spares_of_ok rfl) (keeps_modify fun _ => rfl)
  client := sparesHeld_of_keeps spares_client (keeps_client (fun _ _ => rfl) fun _ _ => rfl)
  load := by
    intro s hs
    have hload := Store.inSession_load_of_held hs
    refine ⟨spares_of_ok hload, ?_⟩
    rw [hload, hs]
  listModels := fun _ => sparesHeld_of_keeps (spares_call _) (keeps_call (fun _ _ => rfl) _)
  chat := fun _ _ _ => sparesHeld_of_keeps (spares_call _) (keeps_call (fun _ _ => rfl) _)
  breakdown := by
    intro b
    refine sparesHeld_of_keeps (fun s fault s' h => ?_) (keeps_throw _)
    cases h

end Run

/-- **Where the policies are held, a consultation spares them.** -/
theorem Cascade.spares_consult {path : Path} {policies : List Policy} {s : Session}
    (backend : Backend) (text : String) (hheld : s.store.held = some (path, policies)) :
    Run.Spares (consult backend text) s :=
  ((Run.isWhollyClosed_sparesHeld backend path policies).consult text s hheld).1

namespace Reading

variable {backend : Backend} {given : Option (List String)} {denied : List String}
  {policies : List Policy} {text reason : String} {policy : Option Policy} {verdict : Verdict}
  {fault : PolicyFault} {e : Failure} {path : Path} {s s₁ s' : Session}

/-! ## Readings that are spoilt -/

/-- A verdict of the models leads to a failure exactly where an alert is to be completed and cannot
be. -/
theorem byModel_eq_error_iff : byModel denied policy reason verdict = .error e ↔
    ∃ alert attached model p, verdict = .alert alert attached model ∧ alert.alertType ∉ denied ∧
      policy = some p ∧ Completion.merge p alert = .error e := by
  constructor
  · intro h
    cases verdict with
    | none model said => cases h
    | failed said => cases h
    | alert alert attached model =>
        dsimp only [byModel] at h
        split at h
        · cases h
        · rename_i hd
          cases policy with
          | none => cases h
          | some p =>
              -- a completed alert is returned as it is, so the fault is that of completing it
              rcases bind_eq_error_iff.mp h with hmerge | ⟨merged, -, h⟩
              · exact ⟨alert, attached, model, p, rfl, hd, rfl, hmerge⟩
              · cases h
  · rintro ⟨alert, attached, model, p, rfl, hd, rfl, hmerge⟩
    dsimp only [byModel]
    rw [if_neg hd, hmerge]
    rfl

/-- How the policies spoil a reading, given what they recognise and the session in which the models are
then consulted. -/
inductive SpoiltBy (denied : List String) (backend : Backend) (text : String) (s : Session) :
    Except Failure (Option Recognition) → PolicyFault → Prop where
  /-- What they make of the text is no alert. -/
  | record {fault : PolicyFault} : SpoiltBy denied backend text s (.error (.policies fault)) fault
  /-- A policy recognises the alert, and what a model gives cannot be laid over its defaults. -/
  | completion {r : Recognition} {alert : Alert} {attached : Option Policy} {model : String}
      {fault : PolicyFault} :
      r.alert.alertType ∉ denied → r.policy.missingCritical r.alert.fields ≠ [] →
      Cascade.Gives backend text s alert attached model → alert.alertType ∉ denied →
      Completion.merge r.policy alert = .error (.policies fault) →
      SpoiltBy denied backend text s (.ok (some r)) fault

theorem conclude_eq_error_iff :
    (conclude denied policy reason verdict).inSession s = (.error e, s') ↔
      byModel denied policy reason verdict = .error e ∧ s' = s := by
  rw [conclude]
  cases hmodel : byModel denied policy reason verdict with
  | error e' =>
      rw [Run.inSession_bind_error (Run.inSession_lift _ s)]
      simp [eq_comm]
  | ok concluded =>
      rw [Run.inSession_bind_ok (Run.inSession_lift _ s)]
      constructor
      · intro h
        cases h
      · rintro ⟨h, -⟩
        cases h

/-- A consultation leads to a fault of the policies exactly where a completion does. -/
theorem spoils_open_iff (hheld : s.store.held = some (path, policies)) :
    (∃ s', (Cascade.consult backend text >>= fun made =>
        conclude denied policy reason made.verdict).inSession s =
      (.error (.policies fault), s')) ↔
      ∃ alert attached model p, Cascade.Gives backend text s alert attached model ∧
        alert.alertType ∉ denied ∧ policy = some p ∧
        Completion.merge p alert = .error (.policies fault) := by
  constructor
  · rintro ⟨s', h⟩
    rcases Run.bind_eq_error_iff.mp h with h | ⟨made, t, hconsult, h⟩
    · exact absurd h (Cascade.spares_consult backend text hheld fault s')
    · obtain ⟨alert, attached, model, p, hverdict, hd, hp, hmerge⟩ :=
        byModel_eq_error_iff.mp (conclude_eq_error_iff.mp h).1
      exact ⟨alert, attached, model, p, ⟨made, t, hconsult, hverdict⟩, hd, hp, hmerge⟩
  · rintro ⟨alert, attached, model, p, ⟨made, t, hconsult, hverdict⟩, hd, hp, hmerge⟩
    refine ⟨t, ?_⟩
    rw [Run.inSession_bind_ok hconsult]
    exact conclude_eq_error_iff.mpr
      ⟨byModel_eq_error_iff.mpr ⟨alert, attached, model, p, hverdict, hd, hp, hmerge⟩, rfl⟩

theorem spares_denylist (given : Option (List String)) (s : Session) :
    Run.Spares (denylist given) s := by
  cases given with
  | some denied => exact Run.spares_pure denied s
  | none => exact Run.spares_bind (Run.spares_config s) fun config t _ => Run.spares_pure _ t

theorem spoiltBy_iff (hd : (denylist given).inSession s = (.ok denied, s₁))
    (hheld : s₁.store.held = some (path, policies)) :
    (∃ s', (ofText backend given text).inSession s = (.error (.policies fault), s')) ↔
      SpoiltBy denied backend text s₁ (Recognition.ofText text policies) fault := by
  have hf : (recognise text).inSession s₁ = (Recognition.ofText text policies, s₁) := by
    rw [recognise, Run.inSession_bind_ok (Store.inSession_load_of_held hheld), Run.inSession_lift]
  rw [inSession_ofText backend hd hf]
  cases Recognition.ofText text policies with
  | error e =>
      rw [follow, Run.inSession_bind_error (Run.inSession_lift _ s₁)]
      constructor
      · rintro ⟨s', h⟩
        obtain rfl := Except.error.inj (Prod.mk.inj h).1
        exact .record
      · intro h
        cases h
        exact ⟨s₁, rfl⟩
  | ok recognised =>
      rw [inSession_follow_ok]
      cases hby : byPolicy denied recognised with
      | settled reading event =>
          constructor
          · rintro ⟨s', h⟩
            cases h
          · intro h
            -- nothing is completed in a text that the policies have settled
            cases h with
            | completion hr hmissing =>
                rw [byPolicy, if_neg hr] at hby
                split at hby
                · rename_i hnone
                  exact absurd hnone hmissing
                · cases hby
      | «open» policy reason =>
          rw [settle, spoils_open_iff hheld]
          constructor
          · rintro ⟨alert, attached, model, p, hgives, hd', hp', hmerge⟩
            rcases byPolicy_eq_open hby with ⟨-, rfl⟩ | ⟨r, rfl, rfl, hr, hmissing⟩
            · cases hp'
            · obtain rfl := Option.some.inj hp'
              exact .completion hr hmissing hgives hd' hmerge
          · intro h
            cases h with
            | completion hr hmissing hgives hd' hmerge =>
                rcases byPolicy_eq_open hby with ⟨hnone, -⟩ | ⟨r, hsome, rfl, -, -⟩
                · cases hnone
                · cases hsome
                  exact ⟨_, _, _, _, hgives, hd', rfl, hmerge⟩

/-- **A reading fails through the policies exactly where they spoil it.** -/
theorem ofText_eq_policies_iff (hheld : s.store.held = some (path, policies)) :
    (∃ s', (ofText backend given text).inSession s = (.error (.policies fault), s')) ↔
      ∃ denied s₁, (denylist given).inSession s = (.ok denied, s₁) ∧
        SpoiltBy denied backend text s₁ (Recognition.ofText text policies) fault := by
  have hkeeps : Run.Keeps Session.store (denylist given) := keeps_denylist (fun _ _ => rfl) given
  constructor
  · rintro ⟨s', h⟩
    rcases hd : (denylist given).inSession s with ⟨e | denied, s₁⟩
    · rw [ofText, Run.inSession_bind_error hd] at h
      obtain rfl := Except.error.inj (Prod.mk.inj h).1
      exact absurd hd (spares_denylist given s fault s₁)
    · refine ⟨denied, s₁, rfl, ?_⟩
      exact (spoiltBy_iff hd ((hkeeps.of_run hd).symm ▸ hheld)).mp ⟨s', h⟩
  · rintro ⟨denied, s₁, hd, hspoilt⟩
    exact (spoiltBy_iff hd ((hkeeps.of_run hd).symm ▸ hheld)).mpr hspoilt

end Reading
end Triage
