import Triage.Proofs.Analysis
import Triage.Proofs.Cascade
import Triage.Proofs.Steady

/-!
# Alerts do not influence each other

One alert is analysed after another in the same session, and each one changes it: slots are filled,
requests and notes are added. Over a stateless backend none of this has a say in what a later alert
comes to. The relation that carries the argument is that of offering the same (`Session.offer`). An
analysis keeps the offer, whatever becomes of it (`keeps_offer_run`); by induction so does any number
of them (`offer_after`); and what an analysis comes to depends on nothing else (`outcome_congr`).

Correlation ids and times are no part of what an alert comes to.
-/

namespace Triage

/-- A report without the time of its making. -/
def Report.timeless (r : Report) : Report :=
  { r with provenance := { r.provenance with generatedAt := "" } }

namespace Analysis

/-- What is answered, without the correlation id and the time. -/
def content (a : Analysis) : Except String Report := a.result.map Report.timeless

namespace Call

variable {backend : Backend} {call call' : Call} {calls calls' : List Call} {s t : Session}

/-- What a call comes to: what is answered, or the failure. -/
def outcome (backend : Backend) (s : Session) (call : Call) :
    Except Failure (Except String Report) :=
  ((call.run backend).inSession s).1.map content

/-- What calls come to that are made one after another. -/
def outcomes (backend : Backend) : Session → List Call → List (Except Failure (Except String Report))
  | _, [] => []
  | s, call :: rest =>
    call.outcome backend s :: outcomes backend ((call.run backend).inSession s).2 rest

/-- Two calls are about the same text, with the same tools and the same disabled types. -/
structure Matches (call call' : Call) : Prop where
  box : call.box = call'.box
  denied : call.denied = call'.denied
  text : call.text = call'.text

theorem Matches.refl (call : Call) : Matches call call := ⟨rfl, rfl, rfl⟩

/-! ## What is kept -/

theorem keeps_offer_run (backend : Backend) (call : Call) :
    Run.Keeps Session.offer (call.run backend) := by
  intro s
  have hread : (call.read backend s).2.offer = s.offer :=
    (Reading.isSteady_ofText call.denied call.text).keeps (call.entered s)
  rw [inSession_run]
  rcases hrun : call.read backend s with ⟨e | reading, t⟩
  all_goals
    rw [hrun] at hread
    exact hread

theorem after_cons (backend : Backend) (s : Session) (call : Call) (calls : List Call) :
    after backend s (call :: calls) = after backend ((call.run backend).inSession s).2 calls := rfl

/-- **Whatever has been analysed, a session offers what it has offered before.** -/
theorem offer_after (backend : Backend) (s : Session) (calls : List Call) :
    (after backend s calls).offer = s.offer := by
  induction calls generalizing s with
  | nil => rfl
  | cons call rest ih => rw [after_cons, ih, keeps_offer_run backend call s]

/-! ## What a call comes to -/

/-- The content of an answer is that of the reading. -/
theorem outcome_eq (backend : Backend) (s : Session) (call : Call) :
    call.outcome backend s =
      (call.read backend s).1 >>= fun reading => (call.answer reading).map content := by
  rw [outcome, inSession_run]
  rcases call.read backend s with ⟨e | reading, t⟩ <;> rfl

theorem timeless_reportOn (h : call.Matches call') (i : Interpretation) (decision : Decision) :
    (call.reportOn i decision).timeless = (call'.reportOn i decision).timeless := by
  rw [reportOn, reportOn, h.box, h.text]
  rfl

theorem content_answer_congr (h : call.Matches call') (reading : Reading) :
    (call.answer reading).map content = (call'.answer reading).map content := by
  cases reading with
  | nothing reason model => rfl
  | found i =>
      rw [answer, answer]
      cases Rules.decide i.alert i.policy with
      | error fault => rfl
      | ok decision => exact congrArg (Except.ok <| Except.ok ·) (timeless_reportOn h i decision)

/-- **What a call comes to depends on what the session offers, and on nothing else.** -/
theorem outcome_congr (hb : backend.IsStateless) (hs : s.offer = t.offer)
    (h : call.Matches call') : call.outcome backend s = call'.outcome backend t := by
  have hread : (call.read backend s).1 = (call'.read backend t).1 := by
    rw [read, read, h.denied, h.text]
    exact (Reading.isSteady_ofText _ _).same hb _ _ hs
  rw [outcome_eq, outcome_eq, hread]
  cases (call'.read backend t).1 with
  | error e => rfl
  | ok reading => exact content_answer_congr h reading

theorem outcomes_eq_map (hb : backend.IsStateless) (hs : s.offer = t.offer) (calls : List Call) :
    outcomes backend s calls = calls.map (outcome backend t) := by
  induction calls generalizing s with
  | nil => rfl
  | cons call rest ih =>
      rw [outcomes, List.map_cons, outcome_congr hb hs (.refl call),
        ih ((keeps_offer_run backend call s).trans hs)]

/-! ## Independence -/

/-- In a session calls do not influence each other. -/
structure AreIndependent (backend : Backend) (s : Session) : Prop where
  /-- A call comes to what it would have come to in the beginning, whatever was analysed before it
  and whatever came of that. -/
  same : ∀ (earlier : List Call) (call call' : Call), call.Matches call' →
    call.outcome backend (after backend s earlier) = call'.outcome backend s
  /-- So calls made one after another come to what each of them comes to alone. -/
  each : ∀ calls : List Call, outcomes backend s calls = calls.map (outcome backend s)
  /-- In another order they come to the same, in that order. -/
  perm : ∀ calls calls' : List Call, calls.Perm calls' →
    (calls.zip (outcomes backend s calls)).Perm (calls'.zip (outcomes backend s calls'))

/-- **Over a stateless backend calls do not influence each other**, in whatever session. -/
theorem areIndependent (hb : backend.IsStateless) (s : Session) : AreIndependent backend s where
  same := fun earlier _ _ h => outcome_congr hb (offer_after backend s earlier) h
  each := fun calls => outcomes_eq_map hb rfl calls
  perm := by
    intro calls calls' h
    rw [outcomes_eq_map hb rfl calls, outcomes_eq_map hb rfl calls',
      ← List.map_prod_left_eq_zip, ← List.map_prod_left_eq_zip]
    exact h.map _

/-- A backend with one model that says the same about every text. -/
def monotonous : Backend := fun _ request =>
  if request.body.isSome then .saying "no alert" else .listing ["llama3"]

theorem areIndependent_monotonous :
    monotonous.IsStateless ∧ AreIndependent monotonous (.holding .nearby []) :=
  ⟨fun _ _ _ => rfl, areIndependent (fun _ _ _ => rfl) _⟩

/-- Why a call comes to no report, if that is what it comes to. -/
def reason? : Except Failure (Except String Report) → Option String
  | .ok (.error reason) => some reason
  | _ => none

/-- A backend that lists no models once and is silent afterwards is not stateless, and over it the
same call comes to something else the second time. -/
theorem depends_of_state :
    ∃ (backend : Backend) (call : Call) (s : Session),
      call.outcome backend (after backend s [call]) ≠ call.outcome backend s := by
  refine ⟨.replying [.listing []], .ofText "disk full", .holding .nearby [], fun h => ?_⟩
  have hreason := congrArg reason? h
  revert hreason
  decide +kernel

end Call

end Analysis

end Triage
