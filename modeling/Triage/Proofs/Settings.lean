import Triage.Proofs.Run
import Triage.Proofs.Schema

/-!
# Checked settings

What a backend is asked with has been checked before: its temperature lies between two finite
numbers, and so it is one itself. A session begins without a configuration and without a client, and
takes both from checked settings; `Session.IsChecked` says that it has done so, and every step that
configures it keeps that.
-/

namespace Triage

open Schema Checked

/-- A number between two finite ones is finite. -/
theorem Binary64.isFinite_of_le {low high x : Binary64} (hl : low.isFinite = true)
    (hh : high.isFinite = true) (hlow : low.le x = true) (hhigh : x.le high = true) :
    x.isFinite = true := by
  cases low with
  | nan => cases hl
  | infinite s => cases hl
  | finite s m e =>
      cases high with
      | nan => cases hh
      | infinite s => cases hh
      | finite s' m' e' =>
          cases x with
          | finite s m e => rfl
          | nan => simp [le, lt, eqv] at hlow
          | infinite negative =>
              -- what lies above a finite number is not below all of them, and the other way round
              cases negative with
              | true => simp [le, lt, eqv] at hlow
              | false => simp [le, lt, eqv] at hhigh

theorem BackendSettings.isFinite_temperature {env : Environment} {settings : BackendSettings}
    (h : check env = .valid settings) : settings.temperature.isFinite = true := by
  rw [check, seq_eq_valid_iff] at h
  obtain ⟨make, temperature, hmake, ht, rfl⟩ := h
  -- the temperature is the last part, so the rest only has to be seen to leave it alone
  have hfield : (make temperature).temperature = temperature := by
    simp only [seq_eq_valid_iff, map_eq_valid_iff] at hmake
    obtain ⟨_, _, ⟨_, _, ⟨_, _, ⟨_, _, ⟨_, _, rfl⟩, _, rfl⟩, _, rfl⟩, _, rfl⟩, _, rfl⟩ := hmake
    rfl
  rw [hfield]
  rcases withDefault_eq_valid_iff.mp ht with ⟨v, _, hv⟩ | ⟨_, rfl⟩
  · obtain ⟨hlow, hhigh⟩ := le_of_numberBetween hv
    exact Binary64.isFinite_of_le (by decide) (by decide) hlow hhigh
  · decide

/-- The backend is given some time to say what models it has. -/
theorem BackendSettings.lt_healthTimeout {env : Environment} {settings : BackendSettings}
    (h : check env = .valid settings) : Binary64.zero.lt settings.healthTimeout = true := by
  simp only [check, seq_eq_valid_iff, map_eq_valid_iff] at h
  obtain ⟨_, _, ⟨_, _, ⟨_, timeout, ⟨_, _, ⟨_, _, ⟨_, _, rfl⟩, _, rfl⟩, _, rfl⟩, ht, rfl⟩, _, rfl⟩,
    _, rfl⟩ := h
  show Binary64.zero.lt timeout = true
  rcases withDefault_eq_valid_iff.mp ht with ⟨v, _, hv⟩ | ⟨_, rfl⟩
  · exact lt_of_numberAbove hv
  · decide +kernel

/-- A configuration has checked settings of the backend, and the list that the environment gives. -/
theorem Config.parts_of_load {env : Environment} {file : Option String} {config : Config}
    (h : load env file = .ok config) :
    BackendSettings.check env = .valid config.backend ∧
      config.disabledAlertTypes = (env.get? "parser_disabled_alert_types").getD "" := by
  unfold load at h
  split at h
  · cases h
  · cases h
  · rename_i backend hbackend
    dsimp only at h
    split at h
    · rename_i parts hparts
      simp only [seq_eq_valid_iff, map_eq_valid_iff] at hparts
      obtain ⟨_, _, ⟨_, _, rfl⟩, _, rfl⟩ := hparts
      obtain rfl := Except.ok.inj h
      exact ⟨hbackend, rfl⟩
    · cases h
    · cases h

/-- What the surroundings give is what is made of their environment. -/
theorem Surroundings.load_of_config {place : Surroundings} {config : Config}
    (h : place.config = .ok config) : ∃ file, Config.load place.env file = .ok config := by
  rw [Surroundings.config] at h
  cases hsettings : place.settings with
  | error e => rw [hsettings] at h; cases h
  | ok content =>
      rw [hsettings] at h
      cases hload : Config.load place.env content with
      | error invalid =>
          simp only [bind, Except.bind, hload] at h
          cases h
      | ok loaded =>
          simp only [bind, Except.bind, hload] at h
          obtain rfl := Except.ok.inj h
          exact ⟨content, hload⟩

theorem Surroundings.isFinite_temperature {place : Surroundings} {config : Config}
    (h : place.config = .ok config) : config.backend.temperature.isFinite = true := by
  obtain ⟨file, hload⟩ := load_of_config h
  exact BackendSettings.isFinite_temperature (Config.parts_of_load hload).1

/-- What a session is configured by has passed the checks. -/
structure Session.IsChecked (s : Session) : Prop where
  config : ∀ config ∈ s.config, config.backend.temperature.isFinite = true
  client : ∀ c ∈ s.client, c.temperature.isFinite = true

theorem Session.isChecked_start (place : Surroundings) (override : Option String) :
    (Session.start place override).IsChecked := ⟨by simp [start], by simp [start]⟩

namespace Run

variable {s s' : Session}

theorem isChecked_of_reconfigure {config : Config} (hs : s.IsChecked)
    (h : reconfigure.inSession s = (.ok config, s')) :
    config.backend.temperature.isFinite = true ∧ s'.IsChecked := by
  rw [reconfigure, inSession_bind_ok (inSession_get s)] at h
  obtain ⟨built, t, hbuilt, h⟩ := bind_eq_ok_iff.mp h
  rw [inSession_lift, Prod.mk.injEq] at hbuilt
  obtain ⟨hbuilt, rfl⟩ := hbuilt
  simp only [inSession_bind, inSession_modify, inSession_pure, Prod.mk.injEq,
    Except.ok.injEq] at h
  obtain ⟨rfl, rfl⟩ := h
  have ht := Surroundings.isFinite_temperature hbuilt
  exact ⟨ht, fun c hc => Option.some.inj hc ▸ ht, hs.client⟩

theorem isChecked_of_config {config : Config} (hs : s.IsChecked)
    (h : Run.config.inSession s = (.ok config, s')) :
    config.backend.temperature.isFinite = true ∧ s'.IsChecked := by
  rw [Run.config, inSession_bind_ok (inSession_get s)] at h
  cases hconfig : s.config with
  | some found =>
      rw [hconfig] at h
      simp only [inSession_pure, Prod.mk.injEq, Except.ok.injEq] at h
      obtain ⟨rfl, rfl⟩ := h
      exact ⟨hs.config _ hconfig, hs⟩
  | none =>
      rw [hconfig] at h
      exact isChecked_of_reconfigure hs h

/-- **The client of a session has a finite temperature**, if what was there before has. -/
theorem isFinite_temperature_of_client {c : Client} (hs : s.IsChecked)
    (h : client.inSession s = (.ok c, s')) : c.temperature.isFinite = true ∧ s'.IsChecked := by
  rw [client, inSession_bind_ok (inSession_get s)] at h
  cases hclient : s.client with
  | some found =>
      rw [hclient] at h
      simp only [inSession_pure, Prod.mk.injEq, Except.ok.injEq] at h
      obtain ⟨rfl, rfl⟩ := h
      exact ⟨hs.client _ hclient, hs⟩
  | none =>
      rw [hclient] at h
      obtain ⟨config, t, hconfig, h⟩ := bind_eq_ok_iff.mp h
      obtain ⟨ht, hchecked⟩ := isChecked_of_config hs hconfig
      simp only [inSession_bind, inSession_modify, inSession_pure, Prod.mk.injEq,
        Except.ok.injEq] at h
      obtain ⟨rfl, rfl⟩ := h
      exact ⟨ht, hchecked.config, fun c hc => Option.some.inj hc ▸ ht⟩

end Run
end Triage
