import Triage.Analysis
import Triage.Proofs.Run

/-!
# What an analysis makes of a reading

An analysis reads a text and then answers. For the second part nobody is asked and nothing is looked
up: the answer, and what is noted on the way to it, depend on the reading and on what was given along
with the text (`Call.answer`, `Call.notes`). All that an analysis does is told by one equation,
`Call.inSession_run`, and nothing later opens the stages again.

Alerts are analysed one after another (`Call.after`). An analysis that fails is not the end: the next
one goes on in the session that it leaves.
-/

namespace Triage

/-- A last step that only changes the session is taken however the step before it ends. -/
theorem Run.inSession_finally {α : Type} (x : Run α) (f : Session → Session) (s : Session) :
    (tryFinally x (modify f) : Run α).inSession s = ((x.inSession s).1, f (x.inSession s).2) := by
  rcases h : x s with ⟨e | a, t⟩
  all_goals
    have hx : x.inSession s = _ := h
    rw [hx]
    simp only [inSession, tryFinally, tryFinally', ExceptT.run, StateT.run, bind, StateT.bind,
      Functor.map, ExceptT.map, ExceptT.mk, h]
    rfl

namespace Analysis

/-- A text that is to be analysed, with what is given along. -/
structure Call where
  box : Toolbox
  /-- The disabled alert types, unless the configuration is to say them. -/
  denied : Option (List String)
  text : String
  /-- The time. -/
  now : String
  /-- A correlation id that can be taken if none is given. -/
  fresh : String
  id : Option String

namespace Call

variable {backend : Backend} {call : Call} {calls : List Call} {reading : Reading} {e : Failure}
  {s s' t : Session}

/-- Analyses the text. -/
def run (backend : Backend) (call : Call) : Run Analysis :=
  Analysis.ofText backend call.box call.denied call.now call.fresh call.id call.text

/-- The call that gives nothing along with a text and disables nothing. -/
def ofText (text : String) : Call := ⟨Toolbox.builtin, some [], text, "", "", none⟩

/-- The correlation id. -/
def tag (call : Call) : String := (call.id.filter (· ≠ "")).getD call.fresh

/-- The session in which the text is read. -/
def entered (call : Call) (s : Session) : Session :=
  { s with context := ⟨call.tag, s.context.alertType⟩ }

/-- What is read, and the session after that. -/
def read (backend : Backend) (call : Call) (s : Session) : Except Failure Reading × Session :=
  (Reading.ofText backend call.denied call.text).inSession (call.entered s)

/-- The report on what has been found. -/
def reportOn (call : Call) (i : Interpretation) (decision : Decision) : Report :=
  Report.make call.box call.now i.alert decision i.policy (some call.text) i.model

/-- The answer to a reading. -/
def answer (call : Call) : Reading → Except Failure Analysis
  | .nothing reason _ => .ok ⟨call.tag, .error reason⟩
  | .found i =>
    match Rules.decide i.alert i.policy with
    | .error fault => .error (.expression fault)
    | .ok decision => .ok ⟨call.tag, .ok (call.reportOn i decision)⟩

/-- What is noted on the way from a reading to the answer. -/
def notes (call : Call) : Reading → Journal
  | .nothing _ _ => []
  | .found i =>
    match Rules.decide i.alert i.policy with
    | .error _ => []
    | .ok decision =>
      .decision decision.state.word :: renderFailures (call.reportOn i decision).options

/-- The session in the end: something more is noted, and nothing is logged along. -/
def left (s : Session) (notes : Journal) : Session :=
  { s with journal := s.journal ++ notes, context := .empty }

theorem inSession_setContext (context : Context) (s : Session) :
    (setContext context).inSession s = (.ok (), { s with context }) := rfl

/-- The stages behind a reading answer and note; what is logged along is left open here. -/
theorem inSession_stages (h : call.read backend s = (.ok reading, t)) :
    ∃ context, (stages backend call.box call.denied call.now call.tag call.text).inSession
        (call.entered s) =
      (call.answer reading, { t with journal := t.journal ++ call.notes reading, context }) := by
  rw [stages, Run.inSession_bind_ok h]
  cases reading with
  | nothing reason model => exact ⟨t.context, by rw [notes, List.append_nil]; rfl⟩
  | found i =>
      refine ⟨⟨call.tag, i.alert.alertType⟩, ?_⟩
      dsimp only
      rw [Run.inSession_bind_ok (inSession_setContext _ t), decide, answer, notes]
      cases Rules.decide i.alert i.policy with
      | error fault => rw [List.append_nil]; rfl
      | ok decision => rw [List.append_cons]; rfl

/-- **All that an analysis does behind its reading is to answer and to note.** -/
theorem inSession_run (backend : Backend) (call : Call) (s : Session) :
    (call.run backend).inSession s =
      match call.read backend s with
      | (.error e, t) => (.error e, left t [])
      | (.ok reading, t) => (call.answer reading, left t (call.notes reading)) := by
  have hrun : (call.run backend).inSession s =
      (((stages backend call.box call.denied call.now call.tag call.text).inSession
          (call.entered s)).1,
        { ((stages backend call.box call.denied call.now call.tag call.text).inSession
          (call.entered s)).2 with context := .empty }) := by
    rw [run, Analysis.ofText, Run.inSession_bind_ok (Run.inSession_get s),
      Run.inSession_bind_ok (inSession_setContext _ s)]
    exact Run.inSession_finally _ _ _
  rw [hrun]
  rcases hread : call.read backend s with ⟨e | reading, t⟩
  · rw [stages, Run.inSession_bind_error hread]
    simp only [left, List.append_nil]
  · obtain ⟨context, hstages⟩ := inSession_stages hread
    rw [hstages]
    rfl

/-- An analysis that ends has answered a reading. -/
theorem read_of_run {a : Analysis} (h : (call.run backend).inSession s = (.ok a, s')) :
    ∃ reading t, call.read backend s = (.ok reading, t) ∧ call.answer reading = .ok a ∧
      s' = left t (call.notes reading) := by
  rw [inSession_run] at h
  rcases hread : call.read backend s with ⟨e | reading, t⟩
  · rw [hread] at h
    cases h
  · rw [hread, Prod.mk.injEq] at h
    obtain ⟨hanswer, rfl⟩ := h
    exact ⟨reading, t, rfl, hanswer, rfl⟩

/-- A report that is answered is on what was found, as it was decided about. -/
theorem found_of_run {a : Analysis} {r : Report}
    (h : (call.run backend).inSession s = (.ok a, s')) (hr : a.result = .ok r) :
    ∃ i decision t, call.read backend s = (.ok (.found i), t) ∧
      Rules.decide i.alert i.policy = .ok decision ∧ r = call.reportOn i decision ∧
      s' = left t (call.notes (.found i)) := by
  obtain ⟨reading, t, hread, hanswer, rfl⟩ := read_of_run h
  cases reading with
  | nothing reason model =>
      cases hanswer
      cases hr
  | found i =>
      rw [answer] at hanswer
      cases hdecide : Rules.decide i.alert i.policy with
      | error fault =>
          rw [hdecide] at hanswer
          cases hanswer
      | ok decision =>
          rw [hdecide] at hanswer
          cases hanswer
          cases hr
          exact ⟨i, decision, t, hread, hdecide, rfl, rfl⟩

/-- The answer never fails through the policies. -/
theorem answer_ne_policies (call : Call) (reading : Reading) (fault : PolicyFault) :
    call.answer reading ≠ .error (.policies fault) := by
  intro h
  cases reading with
  | nothing reason model => cases h
  | found i =>
      rw [answer] at h
      split at h <;> cases h

/-- So where an analysis does, the text could not be read. -/
theorem run_eq_policies_iff {fault : PolicyFault} :
    (∃ s', (call.run backend).inSession s = (.error (.policies fault), s')) ↔
      ∃ t, call.read backend s = (.error (.policies fault), t) := by
  rw [inSession_run]
  rcases call.read backend s with ⟨e | reading, t⟩
  · simp
  · simp [answer_ne_policies]

/-- The session after some analyses, one after another. -/
def after (backend : Backend) (s : Session) (calls : List Call) : Session :=
  calls.foldl (fun s call => ((call.run backend).inSession s).2) s

end Call

end Analysis

end Triage
