import Triage.Proofs.Succession
import Triage.Proofs.Survey

/-!
# What is noted in a run

The course of a call is what takes place in it: the attempts made, the survey of its text, the
reading, and the answer. From it one can tell without looking at any journal what ought to be noted
(`Course.events`): every attempt, then the reading under its label if there is one, then the decision,
then the options that could not be rendered. `journal_of_run` says that just this is noted, and
`journal_after` that it is so over any number of calls.

A survey that fails is the delicate case. The attempts of a consultation that fails halfway are noted
and belong to no survey. So they are had from the consultation up to its last attempt
(`Cascade.tried`). Over a backend that replies this does not fail between two attempts, given that the
client has a temperature that can be sent (`Session.OffersFinite`).
-/

namespace Triage

/-! ## The attempts made -/

/-- The temperature of the client that a session offers can be sent. -/
def Session.OffersFinite (s : Session) : Prop :=
  ∀ c, s.offer.client = .ok c → c.temperature.isFinite = true

theorem Session.IsChecked.offersFinite {s : Session} (hs : s.IsChecked) : s.OffersFinite := by
  intro c hc
  rcases hclient : Run.client.inSession s with ⟨o, t⟩
  obtain rfl : o = .ok c := (Run.offer_of_client hclient).1.trans hc
  exact (Run.isFinite_temperature_of_client hs hclient).1

theorem Session.OffersFinite.of_offer {s t : Session} (hs : s.OffersFinite)
    (h : t.offer = s.offer) : t.OffersFinite := fun c hc => hs c (h ▸ hc)

namespace Run

variable {α β γ δ : Type} {f : β → γ} {s : Session}

/-- A step notes what another one does, and where it gives a value, the other one gives what `f` makes
of that. -/
def IsTracedBy (f : β → γ) (y : Run β) (x : Run γ) : Prop :=
  ∀ s : Session, (y.inSession s).2.journal = (x.inSession s).2.journal ∧
    ∀ b, (y.inSession s).1 = .ok b → (x.inSession s).1 = .ok (f b)

theorem isTracedBy_pure (b : β) : IsTracedBy f (pure b) (pure (f b)) :=
  fun _ => ⟨rfl, fun _ h => by cases h; rfl⟩

/-- Both may begin with the same step. -/
theorem isTracedBy_bind {x : Run α} {y : α → Run β} {z : α → Run γ}
    (h : ∀ a, IsTracedBy f (y a) (z a)) : IsTracedBy f (x >>= y) (x >>= z) := by
  intro s
  rcases hx : x.inSession s with ⟨e | a, t⟩
  · rw [inSession_bind_error hx, inSession_bind_error hx]
    exact ⟨rfl, fun b hb => by cases hb⟩
  · rw [inSession_bind_ok hx, inSession_bind_ok hx]
    exact h a t

/-- What follows may note nothing. -/
theorem IsTracedBy.bind {y : Run β} {x : Run γ} {z : β → Run δ} {g : δ → γ}
    (h : IsTracedBy f y x) (hkeeps : ∀ b, Keeps Session.journal (z b))
    (hvalue : ∀ b d t t', (z b).inSession t = (.ok d, t') → g d = f b) :
    IsTracedBy g (y >>= z) x := by
  intro s
  obtain ⟨hjournal, hb⟩ := h s
  rcases hy : y.inSession s with ⟨e | b, t⟩
  all_goals rw [hy] at hjournal hb
  · rw [inSession_bind_error hy]
    exact ⟨hjournal, fun d hd => by cases hd⟩
  · rw [inSession_bind_ok hy]
    refine ⟨(hkeeps b t).trans hjournal, fun d hd => ?_⟩
    rw [hb b rfl, hvalue b d t _ (Prod.ext hd rfl)]

/-- The attempts that a step makes, if it makes any. -/
def made : Except Failure (List Attempt) → List Attempt
  | .ok made => made
  | .error _ => []

/-- A step that makes attempts notes all of them and nothing else. -/
def NotesMade (x : Run (List Attempt)) (s : Session) : Prop :=
  (x.inSession s).2.journal = s.journal ++ (made (x.inSession s).1).map Attempt.event

theorem notesMade_nil (s : Session) : NotesMade (pure []) s := (List.append_nil _).symm

/-- Before it there may be steps that note nothing. -/
theorem notesMade_bind {x : Run α} {y : α → Run (List Attempt)}
    (hkeeps : Keeps Session.journal x)
    (h : ∀ a t, x.inSession s = (.ok a, t) → NotesMade (y a) t) : NotesMade (x >>= y) s := by
  rw [NotesMade]
  rcases hx : x.inSession s with ⟨e | a, t⟩
  · rw [inSession_bind_error hx, hkeeps.of_run hx]
    exact (List.append_nil _).symm
  · rw [inSession_bind_ok hx, h a t hx, hkeeps.of_run hx]

end Run

namespace Cascade

variable {backend : Backend} {s : Session}

/-- A consultation up to its last attempt. -/
def tried (backend : Backend) (text : String) : Run (List Attempt) := do
  let client ← Run.client
  match ← Run.call (client.listModels backend) with
  | .error _ => return []
  | .ok [] => return []
  | .ok available =>
    let messages := Prompt.messages text (← Store.load)
    attempts (attempt backend messages)
      (writable (candidates (Text.points client.model) available)).1

/-- A consultation makes the attempts that are made up to its last one, and then it notes nothing. -/
theorem isTracedBy_tried (backend : Backend) (text : String) :
    Run.IsTracedBy Consultation.attempts (consult backend text) (tried backend text) := by
  refine Run.isTracedBy_bind fun c => Run.isTracedBy_bind fun listed => ?_
  rcases listed with error | _ | ⟨first, rest⟩
  · exact Run.isTracedBy_pure (⟨[], _⟩ : Consultation)
  · exact Run.isTracedBy_pure (⟨[], _⟩ : Consultation)
  refine Run.isTracedBy_bind fun policies => ?_
  -- behind the attempts the consultation goes on alone, and it notes nothing more
  have hattempts (x : Run (List Attempt)) : Run.IsTracedBy id x x := fun _ => ⟨rfl, fun _ h => h⟩
  refine (hattempts _).bind (fun made => ?_) fun made found t t' h => ?_
  · exact Run.keeps_bind (keeps_goOn made _) fun _ => Run.keeps_bind
      (keeps_verdict (fun _ _ => rfl) (fun _ _ => rfl) made) fun _ => Run.keeps_pure _
  · obtain ⟨_, t₁, -, h⟩ := Run.bind_eq_ok_iff.mp h
    obtain ⟨verdict, t₂, -, h⟩ := Run.bind_eq_ok_iff.mp h
    cases h
    rfl

theorem notesMade_tried (text : String) (hs : s.OffersFinite) (hr : backend.Replies) :
    Run.NotesMade (tried backend text) s := by
  refine Run.notesMade_bind (Run.keeps_client (fun _ _ => rfl) fun _ _ => rfl) ?_
  intro c s₁ hclient
  refine Run.notesMade_bind (Run.keeps_call (fun _ _ => rfl) _) fun listed s₂ hlisted => ?_
  rcases listed with error | _ | ⟨first, rest⟩
  · exact Run.notesMade_nil s₂
  · exact Run.notesMade_nil s₂
  refine Run.notesMade_bind (Store.keeps_load (fun _ _ => rfl) fun _ _ => rfl) ?_
  intro policies s₃ hload
  -- the client that has listed the models is asked for the chats, and its attempts do not fail
  have hkeeps : Run.Keeps Session.client Store.load :=
    Store.keeps_load (fun _ _ => rfl) fun _ _ => rfl
  have hclient₃ : s₃.client = some c := by
    rw [hkeeps.of_run hload, (Run.call_of_run hlisted).2]
    exact (Run.client_of_run hclient :)
  rw [Run.NotesMade, attempts_inSession hclient₃
    (Client.hasAddress_of_listModels (Run.call_of_run hlisted).1)
    (hs c (Run.offer_of_client hclient).1.symm) (isFinite_messages text policies) hr]
  rfl

end Cascade

namespace Reading

variable {backend : Backend} {given : Option (List String)} {text : String} {v : Survey}
  {reading : Reading} {event : Event} {e : Failure} {s s' : Session}

/-- A survey up to its last attempt. -/
def tried (backend : Backend) (given : Option (List String)) (text : String) :
    Run (List Attempt) := do
  let denied ← denylist given
  let policies ← Store.load
  let recognised ← Recognition.ofText text policies
  match byPolicy denied recognised with
  | .settled _ _ => return []
  | .open _ _ => Cascade.tried backend text

theorem isTracedBy_tried (backend : Backend) (given : Option (List String)) (text : String) :
    Run.IsTracedBy (fun v => v.made.attempts) (survey backend given text)
      (tried backend given text) := by
  refine Run.isTracedBy_bind fun denied => Run.isTracedBy_bind fun policies =>
    Run.isTracedBy_bind fun recognised => ?_
  cases byPolicy denied recognised with
  | settled reading event => exact Run.isTracedBy_pure (⟨denied, recognised, .none⟩ : Survey)
  | «open» policy reason =>
      refine (Cascade.isTracedBy_tried backend text).bind (fun _ => Run.keeps_pure _) ?_
      intro made v t t' h
      cases h
      rfl

theorem notesMade_tried (given : Option (List String)) (text : String) (hs : s.OffersFinite)
    (hr : backend.Replies) : Run.NotesMade (tried backend given text) s := by
  have hsteady : Run.IsSteady backend (denylist given) := isSteady_denylist given
  refine Run.notesMade_bind (keeps_denylist (fun _ _ => rfl) given) fun denied s₁ hdenied => ?_
  refine Run.notesMade_bind (Store.keeps_load (fun _ _ => rfl) fun _ _ => rfl) ?_
  intro policies s₂ hload
  have hoffer : s₂.offer = s.offer := by
    rw [(Store.offer_of_load hload).2, hsteady.keeps.of_run hdenied]
  refine Run.notesMade_bind (Run.keeps_lift _) fun recognised s₃ hrec => ?_
  rw [Run.inSession_lift, Prod.mk.injEq] at hrec
  obtain ⟨-, rfl⟩ := hrec
  cases byPolicy denied recognised with
  | settled reading event => exact Run.notesMade_nil s₂
  | «open» policy reason => exact Cascade.notesMade_tried text (hs.of_offer hoffer) hr

/-- **A survey notes the attempts made in it and nothing else**, also where it fails. -/
theorem journal_of_survey {o : Except Failure Survey} (hs : s.OffersFinite) (hr : backend.Replies)
    (h : (survey backend given text).inSession s = (o, s')) :
    s'.journal = s.journal ++
      (Run.made ((tried backend given text).inSession s).1).map Attempt.event := by
  have htraced := (isTracedBy_tried backend given text s).1
  rw [h] at htraced
  rw [htraced, notesMade_tried given text hs hr]

/-! ## Labels -/

/-- The label under which a reading is counted, by the survey that it was concluded from: who gave the
alert or had it disabled, the policies or a model, and where nobody did, whether a model said so. -/
def label (v : Survey) : Reading → String × String
  | .found i =>
    if i.model.isNone then ("policy", "matched")
    else if v.recognised.isSome then ("llm", "completed")
    else ("llm", "matched")
  | .nothing _ (some _) => ("none", "negative")
  | .nothing _ none =>
    if IsDecided v.denied (.ok v.recognised) then ("policy", "denylisted")
    else if (v.made.attempts.getLast?.bind Attempt.alert?).isSome then ("llm", "denylisted")
    else ("none", "unmatched")

theorem event_of_settled {denied : List String} {recognised : Option Recognition}
    (made : Consultation) (h : byPolicy denied recognised = .settled reading event) :
    event = .parse (label ⟨denied, recognised, made⟩ reading).1
      (label ⟨denied, recognised, made⟩ reading).2 := by
  cases recognised with
  | none => cases h
  | some r =>
      rw [byPolicy] at h
      split at h
      · rename_i hdenied
        cases h
        have hdecided : IsDecided denied (.ok (some r)) := .inl hdenied
        simp only [label, hdecided, if_true]
      · split at h
        · cases h
          rfl
        · cases h

theorem event_of_open {denied : List String} {recognised : Option Recognition}
    {policy : Option Policy} {reason : String} {made : Consultation}
    (hopen : byPolicy denied recognised = .open policy reason)
    (htold : made.verdict.IsToldBy made.attempts)
    (h : byModel denied policy reason made.verdict = .ok (reading, event)) :
    event = .parse (label ⟨denied, recognised, made⟩ reading).1
      (label ⟨denied, recognised, made⟩ reading).2 := by
  have hopened := byPolicy_eq_open hopen
  have hundecided : ¬ IsDecided denied (.ok recognised) := by
    rcases hopened with ⟨rfl, -⟩ | ⟨r, rfl, -, hr, hmissing⟩
    · exact id
    · exact not_or.mpr ⟨hr, hmissing⟩
  rcases hverdict : made.verdict with ⟨alert, attached, model⟩ | ⟨model, said⟩ | said
  all_goals rw [hverdict] at h htold
  · dsimp only [byModel] at h
    split at h
    · cases h
      have hlast : (made.attempts.getLast?.bind Attempt.alert?).isSome = true := by
        rw [htold.1]
        rfl
      simp only [label, hundecided, hlast, if_true, if_false]
    · -- with a policy that recognised the text the alert is completed, and else it is matched
      rcases hopened with ⟨rfl, rfl⟩ | ⟨r, rfl, rfl, -, -⟩
      · cases h
        rfl
      · obtain ⟨merged, -, h⟩ := bind_eq_ok_iff.mp h
        cases h
        rfl
  · cases h
    rfl
  · cases h
    have hlast : ¬ (made.attempts.getLast?.bind Attempt.alert?).isSome = true := by
      intro hsome
      obtain ⟨alert, halert⟩ := Option.isSome_iff_exists.mp hsome
      obtain ⟨a, ha, halert⟩ := Option.bind_eq_some_iff.mp halert
      obtain ⟨reason, category, hfailed⟩ := htold a ha
      rw [Attempt.alert?, hfailed] at halert
      cases halert
    simp only [label, hundecided, hlast, Bool.false_eq_true, if_false]

/-- A label agrees with a reading, whatever that was concluded from. -/
inductive Agrees : Reading → String → String → Prop where
  /-- The policies have given the alert alone. -/
  | matched {i : Interpretation} : i.model = none → Agrees (.found i) "policy" "matched"
  /-- A model has given it. -/
  | modelled {i : Interpretation} : i.model.isSome = true → Agrees (.found i) "llm" "matched"
  /-- A model has completed it, and the policy that recognised it is attached. -/
  | completed {i : Interpretation} : i.model.isSome = true → i.policy.isSome = true →
      Agrees (.found i) "llm" "completed"
  /-- It is of a disabled type. -/
  | denylisted {alertType method : String} : method = "policy" ∨ method = "llm" →
      Agrees (.nothing (disabled alertType) none) method "denylisted"
  /-- A model says that there is none. -/
  | negative {reason model : String} : Agrees (.nothing reason (some model)) "none" "negative"
  /-- Nobody says anything. -/
  | unmatched {policies models : String} :
      Agrees (.nothing (uninterpreted policies models) none) "none" "unmatched"

/-- **A conclusion is noted under a label that agrees with it.** -/
theorem agrees_of_conclusion {method outcome : String}
    (h : conclusion v = .ok (reading, .parse method outcome)) : Agrees reading method outcome := by
  rw [conclusion] at h
  split at h
  · rename_i settled event hsettled
    cases h
    cases hrec : v.recognised with
    | none =>
        rw [hrec] at hsettled
        cases hsettled
    | some r =>
        rw [hrec, byPolicy] at hsettled
        split at hsettled
        · cases hsettled
          exact .denylisted (.inl rfl)
        · split at hsettled
          · cases hsettled
            exact .matched rfl
          · cases hsettled
  · rename_i policy reason hopen
    rcases hverdict : v.made.verdict with ⟨alert, attached, model⟩ | ⟨model, said⟩ | said
    all_goals rw [hverdict] at h
    · dsimp only [byModel] at h
      split at h
      · cases h
        exact .denylisted (.inr rfl)
      · cases policy with
        | none =>
            cases h
            exact .modelled rfl
        | some p =>
            obtain ⟨merged, -, h⟩ := bind_eq_ok_iff.mp h
            cases h
            exact .completed rfl rfl
    · cases h
      exact .negative
    · cases h
      exact .unmatched

/-- **A conclusion is noted under its label.** -/
theorem event_of_conclusion (htold : v.made.verdict.IsToldBy v.made.attempts)
    (h : conclusion v = .ok (reading, event)) :
    event = .parse (label v reading).1 (label v reading).2 := by
  rw [conclusion] at h
  split at h
  · rename_i settled event' hsettled
    cases h
    exact event_of_settled v.made hsettled
  · rename_i policy reason hopen
    exact event_of_open hopen htold h

end Reading

namespace Analysis

/-- What takes place in a call. -/
structure Course where
  tried : Except Failure (List Attempt)
  survey : Except Failure Survey
  reading : Except Failure Reading
  answer : Except Failure Analysis

namespace Course

/-- The attempts made. -/
def attempts (k : Course) : List Attempt := Run.made k.tried

/-- The label of the reading that is returned, if one is. -/
def label? (k : Course) : Option (String × String) :=
  match k.survey, k.reading with
  | .ok v, .ok reading => some (Reading.label v reading)
  | _, _ => none

/-- The decision that is returned, if one is. -/
def decision? (k : Course) : Option Decision :=
  match k.reading with
  | .ok (.found i) => (Rules.decide i.alert i.policy).toOption
  | _ => none

/-- The options of the report that is returned, if one is. -/
def options (k : Course) : List ActionOption :=
  match k.answer with
  | .ok ⟨_, .ok r⟩ => r.options
  | _ => []

/-- What ought to be noted. -/
def events (k : Course) : Journal :=
  k.attempts.map Attempt.event ++ k.label?.toList.map (fun l => .parse l.1 l.2) ++
    k.decision?.toList.map (fun d => .decision d.state.word) ++ renderFailures k.options

end Course

namespace Call

variable {backend : Backend} {call : Call} {calls : List Call} {v : Survey} {reading : Reading}
  {e : Failure} {s t : Session}

/-- The course of a call. -/
def course (backend : Backend) (s : Session) (call : Call) : Course where
  tried := ((Reading.tried backend call.denied call.text).inSession (call.entered s)).1
  survey := ((Reading.survey backend call.denied call.text).inSession (call.entered s)).1
  reading := (call.read backend s).1
  answer := ((call.run backend).inSession s).1

/-- The courses of calls that are made one after another. -/
def courses (backend : Backend) : Session → List Call → List Course
  | _, [] => []
  | s, call :: rest =>
    call.course backend s :: courses backend ((call.run backend).inSession s).2 rest

/-- What follows a reading adds the decision and the options that were not rendered. -/
theorem events_of_reading (call : Call) (tried : Except Failure (List Attempt)) (v : Survey)
    (reading : Reading) :
    Course.events ⟨tried, .ok v, .ok reading, call.answer reading⟩ =
      (Run.made tried).map Attempt.event ++
        .parse (Reading.label v reading).1 (Reading.label v reading).2 :: call.notes reading := by
  rw [Course.events, Course.attempts, Course.label?, Course.decision?, Course.options]
  cases reading with
  | nothing reason model => simp [answer, notes, renderFailures]
  | found i =>
      rw [answer, notes]
      cases hdecide : Rules.decide i.alert i.policy with
      | error fault => simp [renderFailures, hdecide, Except.toOption]
      | ok decision => simp [hdecide, Except.toOption]

/-- Where nothing is read, only the attempts are noted. -/
theorem events_of_error (tried : Except Failure (List Attempt)) (survey : Except Failure Survey)
    (e : Failure) :
    Course.events ⟨tried, survey, .error e, .error e⟩ = (Run.made tried).map Attempt.event := by
  rw [Course.events, Course.attempts, Course.label?, Course.decision?, Course.options]
  cases survey <;> simp [renderFailures]

/-- **A call notes what ought to be noted of it.** -/
theorem journal_of_run (hs : s.OffersFinite) (hr : backend.Replies) (call : Call) :
    ((call.run backend).inSession s).2.journal =
      s.journal ++ (call.course backend s).events := by
  have hentered : (call.entered s).OffersFinite := hs.of_offer rfl
  rw [course, inSession_run]
  rcases hread : call.read backend s with ⟨e | reading, t⟩
  · dsimp only
    rw [left, List.append_nil, events_of_error]
    -- the survey has failed, or no conclusion could be drawn from it
    have hjournal : t.journal = s.journal ++ (Run.made
        ((Reading.tried backend call.denied call.text).inSession (call.entered s)).1).map
          Attempt.event := by
      rcases Reading.survey_of_ofText_error hread with hsurvey | ⟨v, hsurvey, -⟩
      · exact Reading.journal_of_survey hentered hr hsurvey
      · exact Reading.journal_of_survey hentered hr hsurvey
    exact hjournal
  · obtain ⟨v, t', event, hsurvey, hconclusion, rfl⟩ := Reading.survey_of_ofText hread
    have hrecord := Reading.isRecorded_of_survey hsurvey
    rw [hsurvey]
    dsimp only
    rw [left, events_of_reading, Reading.journal_of_survey hentered hr hsurvey,
      Reading.event_of_conclusion hrecord.told hconclusion]
    simp only [List.append_assoc, List.singleton_append]
    rfl

/-- **And so do any number of calls.** -/
theorem journal_after (hs : s.OffersFinite) (hr : backend.Replies) (calls : List Call) :
    (after backend s calls).journal =
      s.journal ++ (courses backend s calls).flatMap Course.events := by
  induction calls generalizing s with
  | nil => exact (List.append_nil _).symm
  | cons call rest ih =>
      have hnext : ((call.run backend).inSession s).2.OffersFinite :=
        hs.of_offer (keeps_offer_run backend call s)
      rw [after_cons, ih hnext, journal_of_run hs hr call, courses, List.flatMap_cons,
        List.append_assoc]

end Call

end Analysis

end Triage
