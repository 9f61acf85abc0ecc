import Triage.Interpretation
import Triage.Proofs.Requests

/-!
# Where the backend has no say

What the policies make of a text is settled before the backend comes in, so a reading falls into two
parts. The first one is `recognise`, which knows no backend. Where it decides (`IsDecided`), nothing
is left but to note how; otherwise the models are consulted, once, and what follows asks nobody
anything (`inSession_ofText`).

So a reading that the policies decide is the same over any two backends. The converse is shown by
two backends out of reach: their words turn up in the reading. There is one more way for a backend
to have no say, which is that no address can be made out for it (`Cascade.CanAsk`).
-/

namespace Triage

namespace Reading

variable {backend : Backend} {given : Option (List String)} {denied : List String} {text : String}
  {found : Except Failure (Option Recognition)} {recognised : Option Recognition}
  {policy : Option Policy} {reason : String} {s s₁ s₂ : Session}

/-! ## The two parts of a reading -/

/-- What the policies recognise in a text; they are loaded if they are not held yet. -/
def recognise (text : String) : Run (Option Recognition) := do
  Recognition.ofText text (← Store.load)

/-- What is made of a verdict of the models, and noted. -/
def conclude (denied : List String) (policy : Option Policy) (reason : String)
    (verdict : Verdict) : Run Reading := do
  let (reading, event) ← byModel denied policy reason verdict
  Run.note event
  return reading

theorem keeps_denylist {γ : Type} {view : Session → γ} (h : Run.IgnoresConfig view)
    (given : Option (List String)) : Run.Keeps view (denylist given) := by
  cases given with
  | some denied => exact Run.keeps_pure denied
  | none => exact Run.keeps_bind (Run.keeps_config h) fun _ => Run.keeps_pure _

/-- What follows on what the policies made of a text. -/
def settle (backend : Backend) (denied : List String) (text : String) : ByPolicy → Run Reading
  | .settled reading event => do
    Run.note event
    return reading
  | .open policy reason => do
    let consultation ← Cascade.consult backend text
    conclude denied policy reason consultation.verdict

/-- What follows on what the policies recognised; where they failed, nothing does. -/
def follow (backend : Backend) (denied : List String) (text : String)
    (found : Except Failure (Option Recognition)) : Run Reading := do
  settle backend denied text (byPolicy denied (← found))

theorem inSession_follow_ok (backend : Backend) (denied : List String) (text : String)
    (recognised : Option Recognition) (s : Session) :
    (follow backend denied text (.ok recognised)).inSession s =
      (settle backend denied text (byPolicy denied recognised)).inSession s := by
  rw [follow, Run.inSession_bind_ok (Run.inSession_lift _ _)]

/-- A reading is what the policies recognise and what follows on that. -/
theorem inSession_ofText (backend : Backend) (hd : (denylist given).inSession s = (.ok denied, s₁))
    (hf : (recognise text).inSession s₁ = (found, s₂)) :
    (ofText backend given text).inSession s = (follow backend denied text found).inSession s₂ := by
  rw [ofText, Run.inSession_bind_ok hd]
  rw [recognise] at hf
  rcases hload : Store.load.inSession s₁ with ⟨e | policies, t⟩
  · rw [Run.inSession_bind_error hload] at hf ⊢
    cases hf
    rfl
  · rw [Run.inSession_bind_ok hload, Run.inSession_lift, Prod.mk.injEq] at hf
    obtain ⟨rfl, rfl⟩ := hf
    rw [Run.inSession_bind_ok hload]
    cases Recognition.ofText text policies with
    | error e => rfl
    | ok recognised =>
        rw [Run.inSession_bind_ok (Run.inSession_lift _ _), inSession_follow_ok]
        cases byPolicy denied recognised <;> rfl

/-- The policies decide about a text: they fail, or what they recognise is of a disabled type or
leaves nothing critical open. -/
def IsDecided (denied : List String) : Except Failure (Option Recognition) → Prop
  | .error _ => True
  | .ok none => False
  | .ok (some r) => r.alert.alertType ∈ denied ∨ r.policy.missingCritical r.alert.fields = []

instance (denied : List String) (found : Except Failure (Option Recognition)) :
    Decidable (IsDecided denied found) :=
  match found with
  | .error _ => inferInstanceAs (Decidable True)
  | .ok none => inferInstanceAs (Decidable False)
  | .ok (some _) => inferInstanceAs (Decidable (_ ∨ _))

/-- Where they do not, the text is left open. -/
theorem open_of_not_isDecided (h : ¬ IsDecided denied found) :
    ∃ recognised policy reason, found = .ok recognised ∧
      byPolicy denied recognised = .open policy reason := by
  rcases found with e | _ | r
  · exact absurd trivial h
  · exact ⟨none, _, _, rfl, rfl⟩
  · obtain ⟨hr, hm⟩ := not_or.mp h
    refine ⟨some r, ?_⟩
    rw [byPolicy, if_neg hr]
    cases hmissing : r.policy.missingCritical r.alert.fields with
    | nil => exact absurd hmissing hm
    | cons name rest => exact ⟨_, _, rfl, rfl⟩

/-- Where they do, nothing is asked, and no backend has a say in what follows. -/
theorem follow_of_isDecided (text : String) (s : Session) (h : IsDecided denied found) :
    ∃ (o : Except Failure Reading) (t : Session), t.requests = s.requests ∧
      ∀ backend, (follow backend denied text found).inSession s = (o, t) := by
  rcases found with e | _ | r
  · exact ⟨.error e, s, rfl, fun backend => rfl⟩
  · exact absurd h id
  · have hsettled : ∃ reading event, byPolicy denied (some r) = .settled reading event := by
      rw [byPolicy]
      by_cases hr : r.alert.alertType ∈ denied
      · rw [if_pos hr]
        exact ⟨_, _, rfl⟩
      · rw [if_neg hr, h.resolve_left hr]
        exact ⟨_, _, rfl⟩
    obtain ⟨reading, event, hsettled⟩ := hsettled
    refine ⟨.ok reading, { s with journal := s.journal ++ [event] }, rfl, fun backend => ?_⟩
    rw [inSession_follow_ok, hsettled]
    rfl

/-! ## Concluding -/

theorem keeps_requests_conclude (denied : List String) (policy : Option Policy) (reason : String)
    (verdict : Verdict) : Run.Keeps Session.requests (conclude denied policy reason verdict) :=
  Run.keeps_bind (Run.keeps_lift _) fun _ =>
    Run.keeps_bind (Run.keeps_modify fun _ => rfl) fun _ => Run.keeps_pure _

/-- Where the models failed, the reading repeats what they said. -/
theorem conclude_failed (denied : List String) (policy : Option Policy) (reason said : String)
    (s : Session) :
    ((conclude denied policy reason (.failed said)).inSession s).1 =
      .ok (.nothing (uninterpreted reason said) none) :=
  rfl

theorem uninterpreted_inj {said said' : String} (hs : said ≠ "") (hs' : said' ≠ "") :
    uninterpreted reason said = uninterpreted reason said' ↔ said = said' := by
  unfold uninterpreted
  simp only [hs, hs', if_false]
  exact String.append_right_inj _

/-- Over backends out of reach, a reading left open repeats the words of the transport. -/
theorem consult_conclude_unreachable {c : Client} {u : Url} (policy : Option Policy)
    (reason kind message : String) (hc : Run.client.inSession s = (.ok c, s₁))
    (hu : c.address "api/tags" = .ok u) :
    ((Cascade.consult (.always (.broken kind message)) text >>= fun made =>
      conclude denied policy reason made.verdict).inSession s).1 =
        .ok (.nothing (uninterpreted reason (Cascade.unavailable c.baseUrl
          (.unreachable (Client.reason kind message)))) none) := by
  obtain ⟨t, hconsult⟩ := Cascade.consult_unreachable text kind message hc hu
  rw [Run.inSession_bind_ok hconsult, conclude_failed]

/-! ## Readings that are decided and readings left open -/

/-- The policies that a text has been put to are held. -/
theorem held_of_recognise (hf : (recognise text).inSession s = (.ok recognised, s₁)) :
    ∃ path policies, s₁.store.held = some (path, policies) := by
  obtain ⟨policies, t, hload, hrec⟩ := Run.bind_eq_ok_iff.mp hf
  obtain ⟨path, hheld⟩ := Store.held_of_load hload
  rw [Run.inSession_lift, Prod.mk.injEq] at hrec
  exact ⟨path, policies, hrec.2 ▸ hheld⟩

section Readings

variable (hd : (denylist given).inSession s = (.ok denied, s₁))
  (hf : (recognise text).inSession s₁ = (found, s₂))

include hd hf

/-- Before the backend comes in nothing is asked. -/
theorem requests_of_recognise : s₂.requests = s.requests := by
  have hdenylist : Run.Keeps Session.requests (denylist given) :=
    keeps_denylist (fun _ _ => rfl) given
  have hrecognise : Run.Keeps Session.requests (recognise text) :=
    Run.keeps_bind (Store.keeps_load (fun _ _ => rfl) fun _ _ => rfl) fun _ => Run.keeps_lift _
  rw [hrecognise.of_run hf, hdenylist.of_run hd]

/-- A reading left open is a consultation and a conclusion. -/
theorem ofText_of_open (h : ¬ IsDecided denied found) :
    ∃ recognised policy reason, found = .ok recognised ∧
      byPolicy denied recognised = .open policy reason ∧
      ∀ backend, (ofText backend given text).inSession s =
        (Cascade.consult backend text >>= fun made =>
          conclude denied policy reason made.verdict).inSession s₂ := by
  obtain ⟨recognised, policy, reason, rfl, hopen⟩ := open_of_not_isDecided h
  refine ⟨recognised, policy, reason, rfl, hopen, fun backend => ?_⟩
  rw [inSession_ofText backend hd hf, inSession_follow_ok, hopen]
  rfl

/-- Where the policies decide or nobody can be asked, the reading asks nothing and is the same over
every backend. -/
theorem ofText_of_silent (h : IsDecided denied found ∨ ¬ Cascade.CanAsk s₂) :
    ∃ (o : Except Failure Reading) (t : Session), t.requests = s.requests ∧
      ∀ backend, (ofText backend given text).inSession s = (o, t) := by
  have hrequests := requests_of_recognise hd hf
  by_cases hdecided : IsDecided denied found
  · obtain ⟨o, t, ht, hfollow⟩ := follow_of_isDecided text s₂ hdecided
    exact ⟨o, t, ht.trans hrequests,
      fun backend => (inSession_ofText backend hd hf).trans (hfollow backend)⟩
  · obtain ⟨e, t, ht, hconsult⟩ :=
      Cascade.consult_of_not_canAsk text (h.resolve_left hdecided)
    obtain ⟨_, policy, reason, -, -, hrun⟩ := ofText_of_open hd hf hdecided
    refine ⟨.error e, t, ht.trans hrequests, fun backend => ?_⟩
    rw [hrun, Run.inSession_bind_error (hconsult backend)]

/-- What a reading left open asks, where somebody can be asked. -/
theorem requests_of_open {c : Client} {s₃ : Session} {u : Url} (h : ¬ IsDecided denied found)
    (hc : Run.client.inSession s₂ = (.ok c, s₃)) (hu : c.address "api/tags" = .ok u) :
    ∃ path policies, s₂.store.held = some (path, policies) ∧ ∀ backend,
      ∃ models : List String, models.Nodup ∧
        ((ofText backend given text).inSession s).2.requests = s.requests ++ c.catalogueRequest ::
          models.map (c.chatRequest (Prompt.messages text policies)) := by
  obtain ⟨recognised, policy, reason, rfl, -, hrun⟩ := ofText_of_open hd hf h
  obtain ⟨path, policies, hheld⟩ := held_of_recognise hf
  refine ⟨path, policies, hheld, fun backend => ?_⟩
  obtain ⟨models, hnodup, hasked⟩ := Cascade.requests_of_consult backend text hheld hc hu
  have hconclude (made : Consultation) :
      Run.Keeps Session.requests (conclude denied policy reason made.verdict) :=
    keeps_requests_conclude denied policy reason made.verdict
  refine ⟨models, hnodup, ?_⟩
  rw [hrun, Run.view_bind hconclude, hasked, requests_of_recognise hd hf]

/-- A reading left open is not the same over two backends out of reach, where they can be asked. -/
theorem ofText_ne_of_open (h : ¬ IsDecided denied found) (hask : Cascade.CanAsk s₂) :
    ∃ backend backend', Backend.Replies backend ∧ Backend.Replies backend' ∧
      ((ofText backend given text).inSession s).1 ≠
        ((ofText backend' given text).inSession s).1 := by
  obtain ⟨c, s₃, u, hc, hu⟩ := hask
  obtain ⟨_, policy, reason, -, -, hrun⟩ := ofText_of_open hd hf h
  refine ⟨.always (.broken "" "refused"), .always (.broken "" "reset"), ?_, ?_, fun heq => ?_⟩
  · intro _ _ _ hcrash
    cases hcrash
  · intro _ _ _ hcrash
    cases hcrash
  · rw [hrun, hrun, consult_conclude_unreachable policy reason _ _ hc hu,
      consult_conclude_unreachable policy reason _ _ hc hu] at heq
    have hsaid := (uninterpreted_inj (Cascade.unavailable_unreachable_ne _ _)
      (Cascade.unavailable_unreachable_ne _ _)).mp (Reading.nothing.inj (Except.ok.inj heq)).1
    exact absurd (Cascade.unavailable_unreachable_inj.mp hsaid) (by decide)

end Readings

/-! ## Asking as needed -/

/-- What a reading asks of a backend, given what the policies make of the text (`found`, in the
session `s₂`). -/
structure AsksAsNeeded (given : Option (List String)) (denied : List String) (text : String)
    (s s₂ : Session) (found : Except Failure (Option Recognition)) : Prop where
  /-- No request is made exactly where the policies decide or nobody can be asked. -/
  silent_iff : ∀ backend,
    ((ofText backend given text).inSession s).2.requests = s.requests ↔
      IsDecided denied found ∨ ¬ Cascade.CanAsk s₂
  /-- There the reading is the same over any two backends, and so is all that it does. -/
  same : IsDecided denied found ∨ ¬ Cascade.CanAsk s₂ →
    ∀ backend backend', (ofText backend given text).inSession s =
      (ofText backend' given text).inSession s
  /-- Elsewhere it is not: two backends that fail in the transport lead to different readings. -/
  differ : ¬ IsDecided denied found → Cascade.CanAsk s₂ →
    ∃ backend backend', backend.Replies ∧ backend'.Replies ∧
      ((ofText backend given text).inSession s).1 ≠ ((ofText backend' given text).inSession s).1
  /-- Where the policies do not decide, the models are consulted about the text, and all that is
  left is a conclusion, which asks nothing. -/
  consults : ¬ IsDecided denied found →
    ∃ recognised policy reason, found = .ok recognised ∧
      byPolicy denied recognised = .open policy reason ∧
      (∀ verdict, Run.Keeps Session.requests (conclude denied policy reason verdict)) ∧
      ∀ backend, (ofText backend given text).inSession s =
        (Cascade.consult backend text >>= fun made =>
          conclude denied policy reason made.verdict).inSession s₂
  /-- So the catalogue is asked for once, and all other requests are chats about the text, with no
  model twice. -/
  asks : ¬ IsDecided denied found → ∀ c s₃ u,
    Run.client.inSession s₂ = (.ok c, s₃) → c.address "api/tags" = .ok u →
    ∃ path policies, s₂.store.held = some (path, policies) ∧ ∀ backend,
      ∃ models : List String, models.Nodup ∧
        ((ofText backend given text).inSession s).2.requests = s.requests ++ c.catalogueRequest ::
          models.map (c.chatRequest (Prompt.messages text policies))

/-- **A backend is asked only where the policies do not decide, and there it has a say.** -/
theorem asksAsNeeded (hd : (denylist given).inSession s = (.ok denied, s₁))
    (hf : (recognise text).inSession s₁ = (found, s₂)) :
    AsksAsNeeded given denied text s s₂ found where
  silent_iff := by
    intro backend
    constructor
    · intro hsilent
      refine Decidable.or_iff_not_imp_left.mpr fun hopen => ?_
      rintro ⟨c, s₃, u, hc, hu⟩
      obtain ⟨_, _, _, hasked⟩ := requests_of_open hd hf hopen hc hu
      obtain ⟨models, -, hrequests⟩ := hasked backend
      rw [hsilent] at hrequests
      exact absurd (congrArg List.length hrequests) (by simp)
    · intro h
      obtain ⟨o, t, ht, hrun⟩ := ofText_of_silent hd hf h
      rw [hrun, ht]
  same := by
    intro h backend backend'
    obtain ⟨o, t, -, hrun⟩ := ofText_of_silent hd hf h
    rw [hrun, hrun]
  differ := fun h hask => ofText_ne_of_open hd hf h hask
  consults := by
    intro h
    obtain ⟨recognised, policy, reason, hfound, hopen, hrun⟩ := ofText_of_open hd hf h
    exact ⟨recognised, policy, reason, hfound, hopen,
      keeps_requests_conclude denied policy reason, hrun⟩
  asks := fun h c s₃ u hc hu => requests_of_open hd hf h hc hu

/-- A policy that cannot do without the name of an instance, and may capture none. -/
def unnamed : Json := .object [
  ("alert_type", .string "disk_full"),
  ("patterns", .array [.object [("pattern", .string "disk full(?: on (?P<instance_name>\\S+))?")]]),
  ("critical_fields", .array [.string "instance_name"])]

/-- What a policy leaves open in a text that it recognises. -/
def leftOpen (text : String) (policy : Policy) : Option (List String) :=
  match Recognition.ofText text [policy] with
  | .ok (some r) => some (r.policy.missingCritical r.alert.fields)
  | _ => none

theorem leftOpen_eq_some_iff {policy : Policy} {names : List String} :
    leftOpen text policy = some names ↔
      ∃ r, Recognition.ofText text [policy] = .ok (some r) ∧
        r.policy.missingCritical r.alert.fields = names := by
  rw [leftOpen]
  split
  · rename_i r h
    simp [h]
  · rename_i h
    simp only [reduceCtorEq, false_iff]
    rintro ⟨r, hr, -⟩
    exact h r hr

theorem exists_leftOpen_unnamed :
    ∃ (policy : Policy) (r : Recognition), Policy.check unnamed = .valid policy ∧
      Recognition.ofText "disk full" [policy] = .ok (some r) ∧
      r.policy.missingCritical r.alert.fields = ["instance_name"] := by
  have hrun : ((Policy.check unnamed).toOption.bind (leftOpen "disk full")) =
      some ["instance_name"] := by decide +kernel
  obtain ⟨policy, hpolicy, hopen⟩ := Option.bind_eq_some_iff.mp hrun
  obtain ⟨r, hrec, hnames⟩ := leftOpen_eq_some_iff.mp hopen
  exact ⟨policy, r, Checked.toOption_eq_some_iff.mp hpolicy, hrec, hnames⟩

/-- The policy recognises the text but does not decide, and a client with an address asks. -/
theorem asksAsNeeded_unnamed :
    ∃ (policy : Policy) (r : Recognition), Policy.check unnamed = .valid policy ∧
      ¬ IsDecided [] (.ok (some r)) ∧
      Cascade.CanAsk (.holding .nearby [policy]) ∧
      AsksAsNeeded (some []) [] "disk full" (.holding .nearby [policy])
        (.holding .nearby [policy]) (.ok (some r)) := by
  obtain ⟨policy, r, hpolicy, hrec, hnames⟩ := exists_leftOpen_unnamed
  have hf : (recognise "disk full").inSession (.holding .nearby [policy]) =
      (.ok (some r), .holding .nearby [policy]) := by
    rw [recognise, Run.inSession_bind_ok (Store.inSession_load_of_held rfl), Run.inSession_lift, hrec]
  refine ⟨policy, r, hpolicy, ?_, ?_, asksAsNeeded (Run.inSession_pure _ _) hf⟩
  · rintro (hdenied | hnone)
    · cases hdenied
    · rw [hnames] at hnone
      cases hnone
  · exact ⟨.nearby, _, _, Run.inSession_client_of_some rfl, rfl⟩

/-- A session with a client whose base has a port that is no number. -/
def misaddressed : Session := .holding { Client.nearby with baseUrl := "http://a:b" } []

/-- A session in which no client can be made, since the environment sets no proper temperature. -/
def misconfigured : Session :=
  { Session.start ⟨[], [], [], [], [("OLLAMA_TEMPERATURE", "hot")], []⟩ none with
    store := ⟨none, some ([], [])⟩ }

/-- Nothing is asked about a text though the policies do not decide about it. -/
def IsSilent (backend : Backend) (text : String) (s : Session) : Prop :=
  ¬ IsDecided [] ((recognise text).inSession s).1 ∧
    ((ofText backend (some []) text).inSession s).2.requests = s.requests

theorem silent_misaddressed :
    IsSilent (.replying []) "disk full" misaddressed ∧
      IsSilent (.replying []) "disk full" misconfigured := by
  refine ⟨⟨by decide, List.isEmpty_iff.mp ?_⟩, by decide, List.isEmpty_iff.mp ?_⟩
  · decide +kernel
  · decide +kernel

end Reading
end Triage
