import Mathlib.Data.List.Induction
import Triage.Proofs.Agreement

/-!
# The configuration in force over a whole run

Around a configuration the surroundings change, it is asked for, it is built again and texts are
read (`Act`). An act that fails is not the end: the next one goes on in the session that it leaves.

What an act can do to the configuration in force is said once, for an act that tries to build one
(`config_of_tries`) and for one that does not or fails to (`config_of_not_built`). That the
configuration in force is that of the last build that succeeded (`WasBuilt`) is shown by induction
on the acts, the last one taken off first. That two runs in which the same alert types are listed in
different ways come to the same is shown by induction on the acts of both (`alike_after`).
-/

namespace Triage.Snapshot

variable {s s' start start' : Session} {c c' : Config} {p p' : Surroundings}

/-! ## Acts -/

/-- Something that happens around a configuration. -/
inductive Act where
  | surround (place : Surroundings)
  | get
  | reload
  | parse (backend : Backend) (text : String)

namespace Act

/-- An act as a step of a session; its answer is left aside. -/
def step : Act → Run Unit
  | surround place => modify fun s => { s with place }
  | get => Run.config >>= fun _ => pure ()
  | reload => Run.reconfigure >>= fun _ => pure ()
  | parse backend text => Reading.ofText backend none text >>= fun _ => pure ()

/-- The surroundings that an act brings about. -/
def place? : Act → Option Surroundings
  | surround place => some place
  | _ => none

/-- The act tries to build a configuration. -/
def Tries : Act → Session → Prop
  | surround _, _ => False
  | reload, _ => True
  | get, s | parse _ _, s => s.config = none

/-- The acts differ at most in how the surroundings list the same alert types. -/
inductive Alike : Act → Act → Prop where
  | surround {p p' : Surroundings} : p.Alike p' → Alike (.surround p) (.surround p')
  | get : Alike .get .get
  | reload : Alike .reload .reload
  | parse (backend : Backend) (text : String) : Alike (.parse backend text) (.parse backend text)

end Act

/-- The session after some acts. -/
def after (s : Session) (acts : List Act) : Session :=
  acts.foldl (fun s a => (a.step.inSession s).2) s

theorem after_concat (s : Session) (acts : List Act) (a : Act) :
    after s (acts ++ [a]) = (a.step.inSession (after s acts)).2 := by
  rw [after, after, List.foldl_append]
  rfl

/-! ## What an act does -/

/-- Leaving the answer of a step aside changes nothing else. -/
theorem session_of_answer {α : Type} (x : Run α) (s : Session) :
    ((x >>= fun _ => pure ()).inSession s).2 = (x.inSession s).2 := by
  have hkeeps (a : α) : Run.Keeps id (pure () : Run Unit) := Run.keeps_pure ()
  exact Run.view_bind hkeeps s

theorem inSession_reconfigure (s : Session) :
    Run.reconfigure.inSession s =
      match s.place.config with
      | .ok c => (.ok c, { s with config := some c })
      | .error e => (.error e, s) := by
  rw [Run.reconfigure, Run.inSession_bind_ok (Run.inSession_get s)]
  cases s.place.config <;> rfl

theorem place_of_step (a : Act) (s : Session) :
    (a.step.inSession s).2.place = a.place?.getD s.place := by
  cases a with
  | surround place => rfl
  | get =>
      rw [Act.step, session_of_answer]
      exact Run.keeps_config (fun _ _ => rfl) s
  | reload =>
      rw [Act.step, session_of_answer]
      exact Run.keeps_reconfigure (fun _ _ => rfl) s
  | parse backend text =>
      rw [Act.step, session_of_answer]
      exact Reading.keeps_place_ofText backend none text s

theorem configOffered_of_none (h : s.config = none) : s.configOffered = s.place.config := by
  rw [Session.configOffered, h]

/-- A build that succeeds puts what it has built in force. -/
theorem config_of_tries {a : Act} (ha : a.Tries s) (h : s.place.config = .ok c) :
    (a.step.inSession s).2.config = some c := by
  cases a with
  | surround place => exact absurd ha id
  | get =>
      rw [Act.step, session_of_answer, Run.inSession_config, configOffered_of_none ha, h]
  | reload => rw [Act.step, session_of_answer, inSession_reconfigure, h]
  | parse backend text =>
      rw [Act.step, session_of_answer,
        Reading.ofText_of_offered ((configOffered_of_none ha).trans h)]
      exact Reading.config_of_ofText rfl backend text

/-- Without one, or where it fails, what was in force before stays in force. -/
theorem config_of_not_built {a : Act} (h : a.Tries s → ∃ e, s.place.config = .error e) :
    (a.step.inSession s).2.config = s.config := by
  cases a with
  | surround place => rfl
  | get =>
      rw [Act.step, session_of_answer, Run.inSession_config]
      cases hs : s.config with
      | none =>
          obtain ⟨e, he⟩ := h hs
          rw [configOffered_of_none hs, he]
          exact hs
      | some c => rw [Session.configOffered, hs]
  | reload =>
      obtain ⟨e, he⟩ := h trivial
      rw [Act.step, session_of_answer, inSession_reconfigure, he]
  | parse backend text =>
      rw [Act.step, session_of_answer]
      cases hs : s.config with
      | none =>
          obtain ⟨e, he⟩ := h hs
          rw [Reading.ofText_of_offered_error ((configOffered_of_none hs).trans he)]
          exact hs
      | some c => exact Reading.config_of_ofText hs backend text

/-! ## What is in force -/

/-- In the course of some acts the configuration was built of surroundings, and no build has
succeeded since. -/
inductive WasBuilt (start : Session) (p : Surroundings) (c : Config) : List Act → Prop where
  /-- The last act has built it. -/
  | build {acts : List Act} {a : Act} :
      a.Tries (after start acts) → (after start acts).place = p → p.config = .ok c →
      WasBuilt start p c (acts ++ [a])
  /-- The last act has tried to build none, or has failed to. -/
  | keep {acts : List Act} {a : Act} :
      WasBuilt start p c acts →
      (a.Tries (after start acts) → ∃ e, (after start acts).place.config = .error e) →
      WasBuilt start p c (acts ++ [a])

variable {acts acts' : List Act}

/-- **What is in force was built last**, and what was built last is in force. -/
theorem config_after_iff (hstart : start.config = none) :
    (after start acts).config = some c ↔ ∃ p, WasBuilt start p c acts := by
  constructor
  · induction acts using List.reverseRecOn with
    | nil =>
        intro h
        rw [after, List.foldl_nil, hstart] at h
        cases h
    | append_singleton acts a ih =>
        intro h
        rw [after_concat] at h
        -- the last act builds a configuration, or leaves the one that the acts before it have built
        by_cases hbuilt : a.Tries (after start acts) ∧ ∃ c, (after start acts).place.config = .ok c
        · obtain ⟨htries, c', hc'⟩ := hbuilt
          rw [config_of_tries htries hc'] at h
          cases h
          exact ⟨_, .build htries rfl hc'⟩
        · have hfails (htries : a.Tries (after start acts)) :
              ∃ e, (after start acts).place.config = .error e := by
            cases hc : (after start acts).place.config with
            | error e => exact ⟨e, rfl⟩
            | ok c => exact absurd ⟨htries, c, hc⟩ hbuilt
          rw [config_of_not_built hfails] at h
          obtain ⟨p, hp⟩ := ih h
          exact ⟨p, .keep hp hfails⟩
  · rintro ⟨p, h⟩
    induction h with
    | build htries hplace hc =>
        rw [after_concat]
        exact config_of_tries htries (hplace ▸ hc)
    | keep _ hfails ih =>
        rw [after_concat, config_of_not_built hfails]
        exact ih

theorem place_after (start : Session) (acts : List Act) :
    (after start acts).place = ((acts.filterMap Act.place?).getLast?).getD start.place := by
  induction acts using List.reverseRecOn with
  | nil => rfl
  | append_singleton acts a ih =>
      rw [after_concat, place_of_step, ih, List.filterMap_append, List.getLast?_append]
      cases a <;> rfl

theorem WasBuilt.config_eq (h : WasBuilt start p c acts) : p.config = .ok c := by
  induction h with
  | build _ _ hc => exact hc
  | keep _ _ ih => exact ih

/-! ## Alike runs -/

theorem alike_step {a a' : Act} (h : s.Alike s') (ha : a.Alike a') :
    (a.step.inSession s).2.Alike (a'.step.inSession s').2 := by
  cases ha with
  | @surround p p' hp =>
      exact ⟨hp, h.config, congrArg (fun t : Session => { t with place := p }) h.rest⟩
  | get =>
      rw [Act.step, session_of_answer, session_of_answer, Run.inSession_config,
        Run.inSession_config]
      have hoffered := h.configOffered
      generalize s.configOffered = offered, s'.configOffered = offered' at hoffered
      cases hoffered with
      | ok hc => exact h.withConfig hc
      | error e => exact h
  | reload =>
      rw [Act.step, session_of_answer, session_of_answer, inSession_reconfigure,
        inSession_reconfigure]
      have hbuilt := Surroundings.config_alike h.place
      generalize s.place.config = built, s'.place.config = built' at hbuilt
      cases hbuilt with
      | ok hc => exact h.withConfig hc
      | error e => exact h
  | parse backend text =>
      rw [Act.step, session_of_answer, session_of_answer]
      exact (Reading.alike_ofText h backend text).2

theorem alike_after (h : s.Alike s') (hacts : List.Forall₂ Act.Alike acts acts') :
    (after s acts).Alike (after s' acts') := by
  induction hacts generalizing s s' with
  | nil => exact h
  | cons ha _ ih => exact ih (alike_step h ha)

/-! ## Runs -/

/-- What holds in the session that some acts have led to. -/
structure IsSnapshot (start : Session) (acts : List Act) : Prop where
  /-- The surroundings are those of the last change. -/
  place : (after start acts).place = ((acts.filterMap Act.place?).getLast?).getD start.place
  /-- In force is what the last build that succeeded has built of the surroundings at that time. -/
  inForce : ∀ c, (after start acts).config = some c ↔ ∃ p, WasBuilt start p c acts
  built : ∀ p c, WasBuilt start p c acts → p.config = .ok c
  /-- It is what is had by asking for it, and nothing changes. -/
  had : ∀ c, (after start acts).config = some c →
    Run.config.inSession (after start acts) = (.ok c, after start acts)
  /-- Where nothing is in force, asking for it is building. -/
  tried : (after start acts).config = none →
    Run.config.inSession (after start acts) = Run.reconfigure.inSession (after start acts)
  /-- A build that succeeds puts in force what it gives. -/
  reloaded : ∀ c, (after start acts).place.config = .ok c →
    Run.reconfigure.inSession (after start acts) =
      (.ok c, { after start acts with config := some c })
  /-- One that fails changes nothing, so that the next one tries again where nothing is in force. -/
  failed : ∀ e, (after start acts).place.config = .error e →
    Run.reconfigure.inSession (after start acts) = (.error e, after start acts)
  /-- A reading has the denylist of the configuration in force, which stays in force. -/
  parsed : ∀ c, (after start acts).config = some c → ∀ backend text,
    (Reading.ofText backend none text).inSession (after start acts) =
        (Reading.ofText backend (some c.denylist) text).inSession (after start acts) ∧
      ((Reading.ofText backend none text).inSession (after start acts)).2.config = some c
  /-- Where nothing is in force, a reading begins with building. -/
  began : (after start acts).config = none → ∀ backend text,
    (Reading.ofText backend none text).inSession (after start acts) =
      (Run.reconfigure >>= fun c =>
        Reading.ofText backend (some c.denylist) text).inSession (after start acts)
  /-- On the denylist are the items that were listed at the last build that succeeded. -/
  denied : ∀ p c, WasBuilt start p c acts → ∀ x, x ∈ c.denylist ↔ Config.IsItem x p.env.list
  /-- With the same alert types listed in another way, a reading would end in the same way. -/
  written : ∀ c c', (after start acts).config = some c → c.Alike c' → ∀ backend text,
    ((Reading.ofText backend none text).inSession (after start acts)).1 =
      ((Reading.ofText backend none text).inSession { after start acts with config := some c' }).1
  /-- Had the same alert types been listed in other ways all along, the session would be alike, and
  a reading would end in the same way. -/
  same : ∀ start' acts', start.Alike start' → List.Forall₂ Act.Alike acts acts' →
    (after start acts).Alike (after start' acts') ∧
      ∀ backend text, ((Reading.ofText backend none text).inSession (after start acts)).1 =
        ((Reading.ofText backend none text).inSession (after start' acts')).1
  /-- The same alert types are listed where the variable is set to texts with the same items, if the
  file of settings does not say something else with the one than with the other. -/
  listed : ∀ (p : Surroundings) (name value value' : String),
    Text.lower name = Environment.listName →
    (∀ x, Config.IsItem x value ↔ Config.IsItem x value') →
    (∀ content, p.settings = .ok (some content) →
      Dotenv.settings (p.env.put name (some value')).spelled? content =
        Dotenv.settings (p.env.put name (some value)).spelled? content) →
    Act.Alike (.surround { p with env := p.env.put name (some value) })
      (.surround { p with env := p.env.put name (some value') })

/-- **A session that starts without a configuration has a snapshot after any acts.** -/
theorem isSnapshot_after (s : Session) (acts : List Act) :
    IsSnapshot { s with config := none } acts where
  place := place_after _ acts
  inForce := fun c => config_after_iff rfl
  built := fun p c h => h.config_eq
  had := fun c h => Run.inSession_config_of_some h
  tried := fun h => Run.inSession_config_of_none h
  reloaded := by
    intro c h
    rw [inSession_reconfigure, h]
  failed := by
    intro e h
    rw [inSession_reconfigure, h]
  parsed := by
    intro c h backend text
    refine ⟨?_, Reading.config_of_ofText h backend text⟩
    rw [Reading.ofText_none, Run.inSession_bind_ok (Run.inSession_config_of_some h)]
  began := by
    intro h backend text
    rw [Reading.ofText_none, Run.inSession_bind, Run.inSession_bind,
      Run.inSession_config_of_none h]
  denied := by
    intro p c h x
    exact Surroundings.mem_denylist_iff h.config_eq x
  written := by
    intro c c' h hc backend text
    have halike := Session.Alike.of_under h hc (.refl (after { s with config := none } acts).place)
    exact (Reading.alike_ofText halike backend text).1
  same := by
    intro start' acts' hstart hacts
    have halike := alike_after hstart hacts
    exact ⟨halike, fun backend text => (Reading.alike_ofText halike backend text).1⟩
  listed := by
    intro p name value value' hname hitems hfile
    exact .surround ⟨rfl, Environment.alike_put hname hitems p.env, hfile⟩

end Triage.Snapshot
