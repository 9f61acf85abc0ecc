import Mathlib.Data.List.Induction
import Mathlib.Data.List.Nodup
import Triage.Proofs.Document
import Triage.Proofs.Run

/-!
# The policies held over a whole run

Around a store files are written and deleted, and it is asked to load, to build again or to find a
policy (`Act`). An act that fails is not the end: the next one goes on in the session that it
leaves.

What an act can do to a store is said once, in `buildsAtMost_step`: nothing at all, or it ends where
a build ends that succeeds. Everything else is derived from this. That the policies held are those
of a file (`WasBuilt`) is shown by induction on the acts, the last one taken off first: either it
has left the store as it was, or it is the build itself. Where something is held, only a reload
builds (`store_of_step_of_held`), since loading and finding do not get as far as the file.
-/

namespace Triage.Store

variable {s s' start : Session} {path : Path} {policies : List Policy} {acts : List Act}
  {alertType : Option String} {e : Failure} {p : Policy}

/-! ## Acts -/

/-- Changes the files that are found. -/
def changeFiles (f : Files → Files) : Run Unit :=
  modify fun s => { s with place := { s.place with files := f s.place.files } }

/-- Something that happens around a store. -/
inductive Act where
  | write (path : Path) (bytes : List UInt8)
  | delete (path : Path)
  | load
  | reload
  | find (alertType : Option String)

/-- An act as a step of a session; its answer is left aside. -/
def Act.step : Act → Run Unit
  | .write path bytes => changeFiles fun files => files.put path (.file bytes)
  | .delete path => changeFiles fun files => files.remove path
  | .load => Store.load >>= fun _ => pure ()
  | .reload => Store.reload >>= fun _ => pure ()
  | .find alertType => Store.find? alertType >>= fun _ => pure ()

/-- The session after some acts. -/
def after (s : Session) (acts : List Act) : Session :=
  acts.foldl (fun s a => (a.step.inSession s).2) s

theorem after_concat (s : Session) (acts : List Act) (a : Act) :
    after s (acts ++ [a]) = (a.step.inSession (after s acts)).2 := by
  rw [after, after, List.foldl_append]
  rfl

/-! ## What an act does to a store -/

/-- A build that succeeds has read a file as it stands, and holds what that file holds. -/
theorem built_of_reload (h : reload.inSession s = (.ok policies, s')) :
    ∃ (path : Path) (bytes : List UInt8), s.place.files.get? path = some (.file bytes) ∧
      Policies.IsContent bytes policies ∧ s'.store.held = some (path, policies) := by
  obtain ⟨path, t, hlocate, hread, rfl⟩ := reload_eq_ok_iff.mp h
  have hplace : t.place = s.place := (keeps_locate (fun _ _ => rfl) _).of_run hlocate
  rw [hplace, Policies.ofFile] at hread
  split at hread
  · cases hread
  · cases hread
  · rename_i bytes hfile
    exact ⟨path, bytes, hfile, Policies.ofBytes_eq_ok_iff.mp hread, rfl⟩

/-- A build that fails leaves the store as it was. -/
theorem store_of_reload_error (h : reload.inSession s = (.error e, s')) : s'.store = s.store := by
  have hkeeps : Run.Keeps Session.store (locate s.store.override) :=
    keeps_locate (fun _ _ => rfl) _
  rw [reload, Run.inSession_bind_ok (Run.inSession_get s)] at h
  rcases Run.bind_eq_error_iff.mp h with h | ⟨path, t, hlocate, h⟩
  · exact hkeeps.of_run h
  · rw [Run.inSession_bind_ok (Run.inSession_get t)] at h
    rcases Run.bind_eq_error_iff.mp h with h | ⟨built, u, hread, h⟩
    · rw [Run.inSession_lift, Prod.mk.injEq] at h
      rw [← h.2, hkeeps.of_run hlocate]
    · -- once the file has been read nothing is left that could fail
      cases h

/-- A step builds at most: it leaves the store as it was, or it succeeds and ends where a build
does. -/
def BuildsAtMost {α : Type} (x : Run α) : Prop :=
  ∀ (s s' : Session) (o : Except Failure α), x.inSession s = (o, s') →
    s'.store = s.store ∨
      ∃ (a : α) (policies : List Policy), o = .ok a ∧ reload.inSession s = (.ok policies, s')

theorem buildsAtMost_of_keeps {α : Type} {x : Run α} (h : Run.Keeps Session.store x) :
    BuildsAtMost x :=
  fun _ _ _ hx => .inl (h.of_run hx)

/-- What is made of the answer of a step builds nothing more. -/
theorem BuildsAtMost.map {α β : Type} {x : Run α} (h : BuildsAtMost x) (f : α → β) :
    BuildsAtMost (x >>= fun a => pure (f a)) := by
  intro s s' o hx
  rcases hs : x.inSession s with ⟨e | a, t⟩
  · rw [Run.inSession_bind_error hs, Prod.mk.injEq] at hx
    obtain ⟨-, rfl⟩ := hx
    rcases h s t _ hs with hstore | ⟨a, policies, ha, -⟩
    · exact .inl hstore
    · cases ha
  · rw [Run.inSession_bind_ok hs, Run.inSession_pure, Prod.mk.injEq] at hx
    obtain ⟨rfl, rfl⟩ := hx
    rcases h s t _ hs with hstore | ⟨-, policies, -, hbuild⟩
    · exact .inl hstore
    · exact .inr ⟨f a, policies, rfl, hbuild⟩

theorem buildsAtMost_reload : BuildsAtMost reload := by
  intro s s' o h
  cases o with
  | error e => exact .inl (store_of_reload_error h)
  | ok policies => exact .inr ⟨policies, policies, rfl, h⟩

theorem buildsAtMost_load : BuildsAtMost load := by
  intro s s' o h
  rcases hs : s.store.held with _ | ⟨path, policies⟩
  · exact buildsAtMost_reload s s' o (inSession_load_of_empty hs ▸ h)
  · rw [inSession_load_of_held hs, Prod.mk.injEq] at h
    exact .inl (by rw [h.2])

theorem buildsAtMost_find? (alertType : Option String) : BuildsAtMost (find? alertType) := by
  rw [find?]
  cases alertType.filter (· ≠ "") with
  | none => exact buildsAtMost_of_keeps (Run.keeps_pure none)
  | some t => exact buildsAtMost_load.map fun policies => policies.find? fun p => p.alertType = t

/-- **An act leaves the store as it was, or it is a build that succeeds.** -/
theorem buildsAtMost_step (a : Act) : BuildsAtMost a.step := by
  cases a with
  | write path bytes => exact buildsAtMost_of_keeps (Run.keeps_modify fun _ => rfl)
  | delete path => exact buildsAtMost_of_keeps (Run.keeps_modify fun _ => rfl)
  | load => exact buildsAtMost_load.map fun _ => ()
  | reload => exact buildsAtMost_reload.map fun _ => ()
  | find alertType => exact (buildsAtMost_find? alertType).map fun _ => ()

/-! ## What is held -/

/-- The policies held; before the first build there are none. -/
def current (s : Store) : List Policy := (s.held.map Prod.snd).getD []

theorem current_of_held {store : Store} (h : store.held = some (path, policies)) :
    store.current = policies := by
  rw [current, h]
  rfl

/-- In the course of some acts the policies were built of the file under a path, as it stood then,
and they have been held ever since. -/
inductive WasBuilt (start : Session) (path : Path) (policies : List Policy) :
    List Act → Prop where
  /-- The last act has built them. -/
  | build {acts : List Act} {a : Act} {bytes : List UInt8} :
      reload.inSession (after start acts) = (.ok policies, after start (acts ++ [a])) →
      (after start acts).place.files.get? path = some (.file bytes) →
      Policies.IsContent bytes policies →
      (after start (acts ++ [a])).store.held = some (path, policies) →
      WasBuilt start path policies (acts ++ [a])
  /-- The last act has left the store as it was. -/
  | keep {acts : List Act} {a : Act} :
      WasBuilt start path policies acts →
      (after start (acts ++ [a])).store = (after start acts).store →
      WasBuilt start path policies (acts ++ [a])

/-- **What is held was built.** -/
theorem wasBuilt_of_held (hstart : start.store.held = none)
    (h : (after start acts).store.held = some (path, policies)) :
    WasBuilt start path policies acts := by
  induction acts using List.reverseRecOn with
  | nil =>
      rw [after, List.foldl_nil, hstart] at h
      cases h
  | append_singleton acts a ih =>
      -- the last act either keeps what the acts before it have built, or builds anew
      have hstep : a.step.inSession (after start acts) =
          ((a.step.inSession (after start acts)).1, after start (acts ++ [a])) := by
        rw [after_concat]
      rcases buildsAtMost_step a _ _ _ hstep with hstore | ⟨-, built, -, hbuild⟩
      · exact .keep (ih (hstore ▸ h)) hstore
      · obtain ⟨path', bytes, hfile, hcontent, hheld⟩ := built_of_reload hbuild
        cases h.symm.trans hheld
        exact .build hbuild hfile hcontent h

theorem WasBuilt.nodup (h : WasBuilt start path policies acts) :
    (policies.map Policy.alertType).Nodup := by
  induction h with
  | build _ _ hcontent _ =>
      obtain ⟨items, -, haccepted⟩ := hcontent
      exact haccepted.nodup
  | keep _ _ ih => exact ih

/-- No two of the policies held are of the same alert type. -/
theorem nodup_current (hstart : start.store.held = none) :
    ((after start acts).store.current.map Policy.alertType).Nodup := by
  rcases hheld : (after start acts).store.held with _ | ⟨path, policies⟩
  · rw [current, hheld]
    exact .nil
  · rw [current_of_held hheld]
    exact (wasBuilt_of_held hstart hheld).nodup

/-! ## Where something is held -/

/-- Where something is held, a policy is looked up there and nowhere else. -/
theorem inSession_find?_of_held (h : s.store.held = some (path, policies))
    (alertType : Option String) :
    (find? alertType).inSession s =
      (.ok (alertType.bind fun t => policies.find? fun p => p.alertType = t), s) := by
  cases alertType with
  | none => rfl
  | some t => exact inSession_find? h t

/-- Only a reload changes what is held. -/
theorem store_of_step_of_held {a : Act} (h : s.store.held = some (path, policies))
    (ha : a ≠ .reload) : (a.step.inSession s).2.store = s.store := by
  cases a with
  | write path bytes => rfl
  | delete path => rfl
  | load => rw [Act.step, Run.inSession_bind_ok (inSession_load_of_held h)]; rfl
  | reload => exact absurd rfl ha
  | find alertType => rw [Act.step, Run.inSession_bind_ok (inSession_find?_of_held h _)]; rfl

theorem held_after (h : s.store.held = some (path, policies)) (hacts : Act.reload ∉ acts) :
    (after s acts).store.held = some (path, policies) := by
  induction acts using List.reverseRecOn with
  | nil => exact h
  | append_singleton acts a ih =>
      rw [List.mem_append, List.mem_singleton, not_or] at hacts
      have hheld := ih hacts.1
      rw [after_concat, store_of_step_of_held hheld (Ne.symm hacts.2), hheld]

/-! ## Finding -/

/-- A policy that is found was looked up among those held in the end. -/
theorem found_of_find? {found : Option Policy}
    (h : (find? alertType).inSession s = (.ok found, s')) :
    found = alertType.bind fun t => s'.store.current.find? fun p => p.alertType = t := by
  rcases hheld : s.store.held with _ | ⟨path, policies⟩
  · rw [find?] at h
    cases ht : alertType.filter (· ≠ "") with
    | none =>
        -- no type is given, or an empty one, and nothing has been built either
        rw [ht] at h
        cases h
        rw [current, hheld]
        cases alertType <;> rfl
    | some t =>
        rw [ht] at h
        obtain ⟨policies, u, hload, h⟩ := Run.bind_eq_ok_iff.mp h
        cases h
        obtain ⟨path, hheld⟩ := held_of_load hload
        rw [current_of_held hheld, (Option.filter_eq_some_iff.mp ht).1]
        rfl
  · rw [inSession_find?_of_held hheld] at h
    cases h
    rw [current_of_held hheld]

/-- Where the alert types are distinct, looking one up finds the policy of that type. -/
theorem find?_eq_some_iff (h : (policies.map Policy.alertType).Nodup) :
    (alertType.bind fun t => policies.find? fun p => p.alertType = t) = some p ↔
      p ∈ policies ∧ alertType = some p.alertType := by
  rw [Option.bind_eq_some_iff]
  constructor
  · rintro ⟨t, rfl, hfind⟩
    have htype : p.alertType = t := by simpa using List.find?_some hfind
    exact ⟨List.mem_of_find?_eq_some hfind, by rw [htype]⟩
  · rintro ⟨hp, rfl⟩
    refine ⟨_, rfl, ?_⟩
    cases hfind : policies.find? fun q => q.alertType = p.alertType with
    | none => simpa using List.find?_eq_none.mp hfind p hp
    | some q =>
        have htype : q.alertType = p.alertType := by simpa using List.find?_some hfind
        exact congrArg some
          (List.inj_on_of_nodup_map h (List.mem_of_find?_eq_some hfind) hp htype)

/-! ## Runs -/

/-- A session in other surroundings. -/
def elsewhere (s : Session) (place : Surroundings) : Session := { s with place }

/-- What holds in the session that some acts have led to. -/
structure IsSound (start : Session) (acts : List Act) : Prop where
  /-- What is held was built in the course of the acts, of a file as it stood then. -/
  built : ∀ path policies, (after start acts).store.held = some (path, policies) →
    WasBuilt start path policies acts
  /-- An act that fails, however it does, leaves what is held and its source as they were. -/
  failed : ∀ (a : Act) (e : Failure) (t : Session),
    a.step.inSession (after start acts) = (.error e, t) → t.store = (after start acts).store
  /-- What is held is what is loaded, whatever files there are, and it goes on being held. -/
  loaded : ∀ path policies, (after start acts).store.held = some (path, policies) →
    ∀ place, load.inSession (elsewhere (after start acts) place) =
      (.ok policies, elsewhere (after start acts) place)
  /-- Neither does finding a policy look at a file or change what is held. -/
  looked : ∀ path policies, (after start acts).store.held = some (path, policies) →
    ∀ alertType, ∃ found, ∀ place,
      (find? alertType).inSession (elsewhere (after start acts) place) =
        (.ok found, elsewhere (after start acts) place)
  /-- As long as nothing is held, a load is a build; after one that fails the next one is, too. -/
  retried : (after start acts).store.held = none →
    load.inSession (after start acts) = reload.inSession (after start acts) ∧
      ∀ (e : Failure) (t : Session), load.inSession (after start acts) = (.error e, t) →
        t.store.held = none ∧ load.inSession t = reload.inSession t
  /-- What a reload has given is what is loaded until the next reload. -/
  reloaded : ∀ (policies : List Policy) (t : Session),
    reload.inSession (after start acts) = (.ok policies, t) →
      ∀ more : List Act, Act.reload ∉ more →
        load.inSession (after t more) = (.ok policies, after t more)
  /-- What is found is the policy of that type among those held, and there is no other. -/
  found : ∀ (alertType : Option String) (found : Option Policy) (t : Session),
    (find? alertType).inSession (after start acts) = (.ok found, t) →
      ∀ p, found = some p ↔ p ∈ t.store.current ∧ alertType = some p.alertType

/-- **A store that starts empty is sound after any acts.** -/
theorem isSound_after (s : Session) (override : Option String) (acts : List Act) :
    IsSound { s with store := .empty override } acts where
  built := fun path policies h => wasBuilt_of_held rfl h
  failed := by
    intro a e t h
    rcases buildsAtMost_step a _ _ _ h with hstore | ⟨_, _, ho, -⟩
    · exact hstore
    · cases ho
  loaded := fun path policies h place => inSession_load_of_held h
  looked := by
    intro path policies h alertType
    exact ⟨_, fun place => inSession_find?_of_held (s := elsewhere _ place) h alertType⟩
  retried := by
    intro h
    refine ⟨inSession_load_of_empty h, fun e t hload => ?_⟩
    have hempty : t.store.held = none := by
      rw [store_of_reload_error (inSession_load_of_empty h ▸ hload), h]
    exact ⟨hempty, inSession_load_of_empty hempty⟩
  reloaded := by
    intro policies t h more hmore
    obtain ⟨path, hheld⟩ := held_of_reload h
    exact inSession_load_of_held (held_after hheld hmore)
  found := by
    intro alertType found t h p
    -- finding is an act itself, so that what is held after it is distinct, too
    have ht : t = after { s with store := .empty override } (acts ++ [.find alertType]) := by
      rw [after_concat, Act.step, Run.inSession_bind_ok h]
      rfl
    have hnodup : (t.store.current.map Policy.alertType).Nodup := ht ▸ nodup_current rfl
    rw [found_of_find? h]
    exact find?_eq_some_iff hnodup

end Triage.Store
