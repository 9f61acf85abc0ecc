import Triage.Interpretation

/-!
# What steps do to a session

A step is a function in two layers: a session goes in, and out come an outcome and a session. The
lemmas here say what each kind of step does there, so that no later proof opens the layers.

A run of two steps is `inSession_bind`; read backwards, for a run that is known to end with a value
or with a failure, it is `bind_eq_ok_iff` or `bind_eq_error_iff`. Some steps only prepare something
(the configuration, the client, the policies). `Keeps` says which part of a session such a step
leaves alone, whatever becomes of it.
-/

namespace Triage

namespace Run

variable {α β : Type} {s s' : Session}

@[simp] theorem inSession_pure (a : α) (s : Session) : (pure a : Run α).inSession s = (.ok a, s) :=
  rfl

@[simp] theorem inSession_get (s : Session) : (get : Run Session).inSession s = (.ok s, s) := rfl

@[simp] theorem inSession_modify (f : Session → Session) (s : Session) :
    (modify f : Run Unit).inSession s = (.ok (), f s) := rfl

@[simp] theorem inSession_throw (e : Failure) (s : Session) :
    (throw e : Run α).inSession s = (.error e, s) := rfl

/-- A computation without a session leaves the session alone. -/
@[simp] theorem inSession_lift (x : Except Failure α) (s : Session) :
    (liftM x : Run α).inSession s = (x, s) := by
  cases x <;> rfl

/-- The second step goes on where the first one ended; a failure is the end. -/
theorem inSession_bind (x : Run α) (f : α → Run β) (s : Session) :
    (x >>= f).inSession s =
      match x.inSession s with
      | (.ok a, s') => (f a).inSession s'
      | (.error e, s') => (.error e, s') := by
  show (ExceptT.run (x >>= f)).run s = _
  rw [ExceptT.run_bind, StateT.run_bind]
  show _ = match (ExceptT.run x).run s with
    | (.ok a, s') => (f a).inSession s'
    | (.error e, s') => (.error e, s')
  rcases h : (ExceptT.run x).run s with ⟨_ | _, _⟩ <;> rfl

theorem inSession_bind_ok {x : Run α} {f : α → Run β} {a : α}
    (h : x.inSession s = (.ok a, s')) : (x >>= f).inSession s = (f a).inSession s' := by
  rw [inSession_bind, h]

theorem inSession_bind_error {x : Run α} {f : α → Run β} {e : Failure}
    (h : x.inSession s = (.error e, s')) : (x >>= f).inSession s = (.error e, s') := by
  rw [inSession_bind, h]

/-- A run of two steps ends with a value exactly when both of them do. -/
theorem bind_eq_ok_iff {x : Run α} {f : α → Run β} {b : β} :
    (x >>= f).inSession s = (.ok b, s') ↔
      ∃ (a : α) (t : Session), x.inSession s = (.ok a, t) ∧ (f a).inSession t = (.ok b, s') := by
  constructor
  · intro h
    rw [inSession_bind] at h
    rcases hx : x.inSession s with ⟨e | a, t⟩
    · rw [hx] at h; simp at h
    · rw [hx] at h; exact ⟨a, t, rfl, h⟩
  · rintro ⟨a, t, hx, hf⟩
    rw [inSession_bind_ok hx, hf]

/-- It fails where the first step does, or the second one behind it. -/
theorem bind_eq_error_iff {x : Run α} {f : α → Run β} {e : Failure} :
    (x >>= f).inSession s = (.error e, s') ↔
      x.inSession s = (.error e, s') ∨
        ∃ (a : α) (t : Session),
          x.inSession s = (.ok a, t) ∧ (f a).inSession t = (.error e, s') := by
  rw [inSession_bind]
  rcases x.inSession s with ⟨_ | a, t⟩
  · simp
  · simp only [Prod.mk.injEq, reduceCtorEq, false_and, false_or, Except.ok.injEq]
    constructor
    · intro h
      exact ⟨a, t, ⟨rfl, rfl⟩, h⟩
    · rintro ⟨_, _, ⟨rfl, rfl⟩, h⟩
      exact h

/-! ## What a step leaves alone -/

/-- A step leaves alone what `view` shows of a session, also where it fails. -/
def Keeps {γ : Type} (view : Session → γ) (step : Run α) : Prop :=
  ∀ s : Session, view (step.inSession s).2 = view s

section Keeps

variable {γ : Type} {view : Session → γ}

/-- What `view` shows of a session does not depend on the configuration in force. -/
def IgnoresConfig (view : Session → γ) : Prop :=
  ∀ (s : Session) (c : Config), view { s with config := some c } = view s

theorem keeps_pure (a : α) : Keeps view (pure a : Run α) := fun _ => rfl

theorem keeps_throw (e : Failure) : Keeps view (throw e : Run α) := fun _ => rfl

theorem keeps_get : Keeps view (get : Run Session) := fun _ => rfl

theorem keeps_lift (x : Except Failure α) : Keeps view (liftM x : Run α) := by
  intro s
  rw [inSession_lift]

theorem keeps_modify {f : Session → Session} (h : ∀ s, view (f s) = view s) :
    Keeps view (modify f : Run Unit) := by
  intro s
  rw [inSession_modify]
  exact h s

/-- A second step that leaves something alone leaves it as the first one did. -/
theorem view_bind {x : Run α} {f : α → Run β} (hf : ∀ a, Keeps view (f a)) (s : Session) :
    view ((x >>= f).inSession s).2 = view (x.inSession s).2 := by
  rw [inSession_bind]
  rcases x.inSession s with ⟨e | a, t⟩
  · rfl
  · exact hf a t

theorem keeps_bind {x : Run α} {f : α → Run β} (hx : Keeps view x)
    (hf : ∀ a, Keeps view (f a)) : Keeps view (x >>= f) :=
  fun s => (view_bind hf s).trans (hx s)

/-- What a step keeps is the same after a run of it. -/
theorem Keeps.of_run {x : Run α} (hx : Keeps view x) {o : Except Failure α}
    (h : x.inSession s = (o, s')) : view s' = view s := by
  have := hx s
  rwa [h] at this

theorem keeps_reconfigure (h : IgnoresConfig view) : Keeps view reconfigure := by
  refine keeps_bind keeps_get fun s => keeps_bind (keeps_lift _) fun c => ?_
  exact keeps_bind (keeps_modify fun t => h t c) fun _ => keeps_pure c

theorem keeps_config (h : IgnoresConfig view) : Keeps view config := by
  refine keeps_bind keeps_get fun s => ?_
  cases s.config with
  | some c => exact keeps_pure c
  | none => exact keeps_reconfigure h

theorem keeps_client (h : IgnoresConfig view)
    (h' : ∀ (s : Session) (c : Client), view { s with client := some c } = view s) :
    Keeps view client := by
  refine keeps_bind keeps_get fun s => ?_
  cases s.client with
  | some c => exact keeps_pure c
  | none =>
      refine keeps_bind (keeps_config h) fun config => ?_
      exact keeps_bind (keeps_modify fun t => h' t _) fun _ => keeps_pure _

end Keeps

/-! ## The client -/

theorem inSession_client_of_some {c : Client} (h : s.client = some c) :
    client.inSession s = (.ok c, s) := by
  rw [client, inSession_bind_ok (inSession_get s), h]
  rfl

/-- The client that has been had once is the session's from then on. -/
theorem client_of_run {c : Client} (h : client.inSession s = (.ok c, s')) :
    s'.client = some c := by
  rw [client, inSession_bind_ok (inSession_get s)] at h
  cases hs : s.client with
  | some c' =>
      rw [hs] at h
      simp only [inSession_pure, Prod.mk.injEq, Except.ok.injEq] at h
      obtain ⟨rfl, rfl⟩ := h
      exact hs
  | none =>
      rw [hs] at h
      obtain ⟨config, t, _, h⟩ := bind_eq_ok_iff.mp h
      simp only [inSession_bind, inSession_modify, inSession_pure, Prod.mk.injEq,
        Except.ok.injEq] at h
      obtain ⟨rfl, rfl⟩ := h
      rfl

/-! ## Notes and calls -/

@[simp] theorem inSession_note (event : Event) (s : Session) :
    (note event).inSession s = (.ok (), { s with journal := s.journal ++ [event] }) := rfl

/-- A call that ends with an answer or with an error of the backend is a step that succeeds. -/
theorem inSession_call {f : List Request → Outcome α} {past : List Request}
    {r : Except BackendError α} (h : f s.requests = (past, r.mapError .backend)) :
    (call f).inSession s = (.ok r, { s with requests := past }) := by
  rw [call, inSession_bind_ok (inSession_get s), h]
  cases r with
  | ok a => rfl
  | error e => rfl

/-- A call that breaks down is a step that fails. -/
theorem inSession_call_of_breakdown {f : List Request → Outcome α} {past : List Request}
    {b : Breakdown} (h : f s.requests = (past, .error (.breakdown b))) :
    (call f).inSession s = (.error (.breakdown b), { s with requests := past }) := by
  rw [call, inSession_bind_ok (inSession_get s), h]
  rfl

/-- All that a call changes in a session is the requests that have been made. -/
theorem session_of_call {f : List Request → Outcome α} {o : Except Failure (Except BackendError α)}
    (h : (call f).inSession s = (o, s')) : s' = { s with requests := (f s.requests).1 } := by
  rw [call, inSession_bind_ok (inSession_get s)] at h
  rcases hf : f s.requests with ⟨past, (e | b) | a⟩
  all_goals
    rw [hf] at h
    cases h
    rfl

theorem keeps_call {γ : Type} {view : Session → γ}
    (h : ∀ (s : Session) (requests : List Request), view { s with requests } = view s)
    (f : List Request → Outcome α) : Keeps view (call f) := by
  intro s
  rcases hcall : (call f).inSession s with ⟨o, s'⟩
  rw [session_of_call hcall]
  exact h s _

/-- A call that succeeds as a step has ended with an answer or with an error of the backend. -/
theorem call_of_run {f : List Request → Outcome α} {r : Except BackendError α}
    (h : (call f).inSession s = (.ok r, s')) :
    (f s.requests).2 = r.mapError .backend
      ∧ s' = { s with requests := (f s.requests).1 } := by
  rcases hf : f s.requests with ⟨past, o⟩
  rw [call, inSession_bind_ok (inSession_get s), hf] at h
  rcases o with (e | b) | a
  · obtain ⟨hr, rfl⟩ := Prod.mk.inj h
    cases hr
    exact ⟨rfl, rfl⟩
  · -- a breakdown is thrown, and so it is no value of the step
    exact absurd (congrArg Prod.fst h) (by simp [inSession_bind])
  · obtain ⟨hr, rfl⟩ := Prod.mk.inj h
    cases hr
    exact ⟨rfl, rfl⟩

end Run

/-! ## The policies -/

namespace Store

variable {s s' : Session} {path : Path} {policies : List Policy}

theorem inSession_load_of_held (h : s.store.held = some (path, policies)) :
    load.inSession s = (.ok policies, s) := by
  rw [load, Run.inSession_bind_ok (Run.inSession_get s), h]
  rfl

/-- Where nothing is held, loading is building. -/
theorem inSession_load_of_empty (h : s.store.held = none) :
    load.inSession s = reload.inSession s := by
  rw [load, Run.inSession_bind_ok (Run.inSession_get s), h]

/-- A build that succeeds holds what it has read. -/
theorem reload_eq_ok_iff :
    reload.inSession s = (.ok policies, s') ↔
      ∃ (path : Path) (t : Session), (locate s.store.override).inSession s = (.ok path, t) ∧
        Policies.ofFile t.place.files path = .ok policies ∧
        s' = { t with store := { t.store with held := some (path, policies) } } := by
  rw [reload, Run.inSession_bind_ok (Run.inSession_get s)]
  constructor
  · intro h
    obtain ⟨path, t, hpath, h⟩ := Run.bind_eq_ok_iff.mp h
    rw [Run.inSession_bind_ok (Run.inSession_get t)] at h
    obtain ⟨built, u, hbuilt, h⟩ := Run.bind_eq_ok_iff.mp h
    rw [Run.inSession_lift, Prod.mk.injEq] at hbuilt
    obtain ⟨hbuilt, rfl⟩ := hbuilt
    rw [Run.inSession_bind_ok (Run.inSession_modify _ t)] at h
    simp only [Run.inSession_pure, Prod.mk.injEq, Except.ok.injEq] at h
    obtain ⟨rfl, rfl⟩ := h
    exact ⟨path, t, hpath, hbuilt, rfl⟩
  · rintro ⟨path, t, hpath, hbuilt, rfl⟩
    rw [Run.inSession_bind_ok hpath, Run.inSession_bind_ok (Run.inSession_get t), hbuilt]
    rfl

theorem held_of_reload (h : reload.inSession s = (.ok policies, s')) :
    ∃ path, s'.store.held = some (path, policies) := by
  obtain ⟨path, t, -, -, rfl⟩ := reload_eq_ok_iff.mp h
  exact ⟨path, rfl⟩

/-- The policies that have been had once are held from then on. -/
theorem held_of_load (h : load.inSession s = (.ok policies, s')) :
    ∃ path, s'.store.held = some (path, policies) := by
  rcases hs : s.store.held with _ | ⟨path, held⟩
  · exact held_of_reload (inSession_load_of_empty hs ▸ h)
  · rw [inSession_load_of_held hs] at h
    simp only [Prod.mk.injEq, Except.ok.injEq] at h
    obtain ⟨rfl, rfl⟩ := h
    exact ⟨path, hs⟩

section Keeps

variable {γ : Type} {view : Session → γ}

theorem keeps_wanted (h : Run.IgnoresConfig view) (override : Option String) :
    Run.Keeps view (wanted override) := by
  rw [wanted]
  cases override.filter (· ≠ "") with
  | some path => exact Run.keeps_pure _
  | none => exact Run.keeps_bind (Run.keeps_config h) fun _ => Run.keeps_pure _

theorem keeps_locate (h : Run.IgnoresConfig view) (override : Option String) :
    Run.Keeps view (locate override) := by
  refine Run.keeps_bind (keeps_wanted h override) fun path => ?_
  cases path with
  | some path =>
      refine Run.keeps_bind Run.keeps_get fun s => ?_
      exact Run.keeps_bind (Run.keeps_lift _) fun _ => Run.keeps_pure _
  | none => exact Run.keeps_bind Run.keeps_get fun _ => Run.keeps_lift _

/-- Having the policies changes at most the configuration in force and the policies held. -/
theorem keeps_load (h : Run.IgnoresConfig view)
    (h' : ∀ (s : Session) (store : Store), view { s with store } = view s) :
    Run.Keeps view load := by
  refine Run.keeps_bind Run.keeps_get fun s => ?_
  rcases s.store.held with _ | ⟨path, policies⟩
  · refine Run.keeps_bind Run.keeps_get fun s => Run.keeps_bind (keeps_locate h _) fun path => ?_
    refine Run.keeps_bind Run.keeps_get fun t => Run.keeps_bind (Run.keeps_lift _) fun built => ?_
    exact Run.keeps_bind (Run.keeps_modify fun u => h' u _) fun _ => Run.keeps_pure built
  · exact Run.keeps_pure policies

theorem keeps_find? (h : Run.IgnoresConfig view)
    (h' : ∀ (s : Session) (store : Store), view { s with store } = view s)
    (alertType : Option String) : Run.Keeps view (find? alertType) := by
  rw [find?]
  cases alertType.filter (· ≠ "") with
  | none => exact Run.keeps_pure none
  | some t => exact Run.keeps_bind (keeps_load h h') fun _ => Run.keeps_pure _

end Keeps

/-- A policy is looked up among those held; no policy has an empty alert type. -/
theorem inSession_find? (h : s.store.held = some (path, policies)) (alertType : String) :
    (find? (some alertType)).inSession s =
      (.ok (policies.find? fun p => p.alertType = alertType), s) := by
  rw [find?]
  by_cases ht : alertType = ""
  · have hnone : (policies.find? fun p => p.alertType = alertType) = none := by
      rw [List.find?_eq_none]
      intro p _
      simp [ht, p.alertType_ne]
    rw [hnone]
    simp [Option.filter, ht]
  · simp only [Option.filter, ne_eq, ht, not_false_eq_true, decide_true, if_true]
    rw [Run.inSession_bind_ok (inSession_load_of_held h)]
    rfl

end Store
end Triage
