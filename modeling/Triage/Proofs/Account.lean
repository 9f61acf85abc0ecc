import Triage.Proofs.Count
import Triage.Proofs.Course

/-!
# The metrics add up

After any number of calls the counts of a fresh session are those of what has taken place in the
calls (`AddsUp`). The journal of a run is known event by event (`Call.journal_after`), and each family
counts the events of one kind and no others. So each count comes down to one about what the courses
of the calls have of that kind (`countP_flatMap_events`).
-/

namespace Triage

open Metrics

theorem DecisionState.word_injective : Function.Injective DecisionState.word := by
  intro a b h
  cases a <;> cases b <;> first | rfl | exact absurd h (by decide)

namespace Analysis

namespace Course

/-- Events of a course are attempts, a label, a decision, or options that have failed. -/
theorem countP_events (p : Event → Bool) (k : Course) :
    k.events.countP p =
      (k.attempts.countP fun a => p a.event) +
      (k.label?.toList.countP fun l => p (.parse l.1 l.2)) +
      (k.decision?.toList.countP fun d => p (.decision d.state.word)) +
      (k.options.countP fun o => p (.renderFailure o.tool) && o.failed) := by
  rw [events, renderFailures, List.countP_append, List.countP_append, List.countP_append,
    List.countP_map, List.countP_map, List.countP_map, List.countP_map, List.countP_filter]
  rfl

/-- So the events of courses are counted kind by kind. -/
theorem countP_flatMap_events (p : Event → Bool) (courses : List Course) :
    (courses.flatMap events).countP p =
      ((courses.flatMap attempts).countP fun a => p a.event) +
      ((courses.filterMap label?).countP fun l => p (.parse l.1 l.2)) +
      ((courses.filterMap decision?).countP fun d => p (.decision d.state.word)) +
      ((courses.flatMap options).countP fun o => p (.renderFailure o.tool) && o.failed) := by
  simp only [List.filterMap_eq_flatMap_toList]
  induction courses with
  | nil => rfl
  | cons k rest ih =>
      simp only [List.flatMap_cons, List.countP_append]
      rw [ih, countP_events]
      omega

end Course

/-- The counts of a journal are those of what has taken place. -/
structure AddsUp (courses : List Course) (journal : Journal) : Prop where
  /-- Every reading that is returned is counted. -/
  readings : total parseResults journal = courses.countP fun k => k.reading.isOk
  /-- It is so under its label, which it has just where it is returned. -/
  labels : ∀ method outcome : String,
    value parseResults [("method", method), ("outcome", outcome)] journal =
      (courses.filterMap Course.label?).count (method, outcome)
  labelled : ∀ k ∈ courses, k.label?.isSome = k.reading.isOk
  /-- The label agrees with the reading. -/
  agrees : ∀ k ∈ courses, ∀ reading, k.reading = .ok reading →
    ∃ method outcome, k.label? = some (method, outcome) ∧ reading.Agrees method outcome
  /-- Every decision that is returned is counted, and so it is under its state. -/
  decisions : total Metrics.decisions journal = (courses.filterMap Course.decision?).length
  states : ∀ state : DecisionState,
    value Metrics.decisions [("decision", state.word)] journal =
      (courses.filterMap Course.decision?).countP fun d => d.state = state
  /-- Every attempt is counted under its model and the way it ended. -/
  attempts : ∀ model status : String,
    value modelAttempts [("model", model), ("status", status)] journal =
      (courses.flatMap Course.attempts).countP fun a => a.model = model ∧ a.ending.word = status
  /-- The attempts are those of the consultation, where that comes to an end. -/
  consulted : ∀ k ∈ courses, ∀ v, k.survey = .ok v → k.attempts = v.made.attempts
  /-- Every failed option of a report that is returned is counted. -/
  failures : total Metrics.renderFailures journal =
    (courses.flatMap Course.options).countP ActionOption.failed

namespace Call

variable {backend : Backend} {call : Call} {calls : List Call} {k : Course} {s : Session}

theorem course_of_mem (h : k ∈ courses backend s calls) :
    ∃ (call : Call) (t : Session), k = call.course backend t := by
  induction calls generalizing s with
  | nil => cases h
  | cons call rest ih =>
      rcases List.mem_cons.mp h with rfl | h
      · exact ⟨call, s, rfl⟩
      · exact ih h

/-- A reading that is returned has a label, and one that agrees with it. -/
theorem exists_label? {reading : Reading} (h : (call.course backend s).reading = .ok reading) :
    ∃ method outcome, (call.course backend s).label? = some (method, outcome) ∧
      reading.Agrees method outcome := by
  rcases hread : call.read backend s with ⟨o, t⟩
  rw [course, hread] at h
  obtain rfl : o = .ok reading := h
  obtain ⟨v, t', event, hsurvey, hconclusion, -⟩ := Reading.survey_of_ofText hread
  have hevent := Reading.event_of_conclusion (Reading.isRecorded_of_survey hsurvey).told hconclusion
  rw [hevent] at hconclusion
  refine ⟨_, _, ?_, Reading.agrees_of_conclusion hconclusion⟩
  rw [course, Course.label?, hsurvey, hread]

/-- There is a label just where a reading is returned. -/
theorem isSome_label? (backend : Backend) (s : Session) (call : Call) :
    (call.course backend s).label?.isSome = (call.course backend s).reading.isOk := by
  cases hreading : (call.course backend s).reading with
  | error e =>
      rw [Course.label?, hreading]
      cases (call.course backend s).survey <;> rfl
  | ok reading =>
      obtain ⟨method, outcome, hsome, -⟩ := exists_label? hreading
      rw [hsome]
      rfl

theorem attempts_of_survey {v : Survey} (h : (call.course backend s).survey = .ok v) :
    (call.course backend s).attempts = v.made.attempts := by
  have htried : (call.course backend s).tried = .ok v.made.attempts :=
    (Reading.isTracedBy_tried backend call.denied call.text (call.entered s)).2 v h
  rw [Course.attempts, htried]
  rfl

/-- **After any calls the metrics of a fresh session add up.** -/
theorem addsUp (hs : s.IsChecked) (hj : s.journal = []) (hr : backend.Replies)
    (calls : List Call) :
    AddsUp (courses backend s calls) (after backend s calls).journal := by
  have hjournal : (after backend s calls).journal =
      (courses backend s calls).flatMap Course.events := by
    rw [journal_after hs.offersFinite hr, hj, List.nil_append]
  have hagrees : ∀ k ∈ courses backend s calls, ∀ reading, k.reading = .ok reading →
      ∃ method outcome, k.label? = some (method, outcome) ∧ reading.Agrees method outcome := by
    intro k hk reading hreading
    obtain ⟨call, t, rfl⟩ := course_of_mem hk
    exact exists_label? hreading
  have hlabelled : ∀ k ∈ courses backend s calls, k.label?.isSome = k.reading.isOk := by
    intro k hk
    obtain ⟨call, t, rfl⟩ := course_of_mem hk
    exact isSome_label? backend t call
  rw [hjournal]
  -- a family counts the events of one kind, so the counts of the other kinds are zero
  exact
    { readings := by
        have hreadings : ((courses backend s calls).filterMap Course.label?).length =
            (courses backend s calls).countP fun k => k.reading.isOk := by
          rw [List.length_filterMap_eq_countP]
          exact List.countP_congr fun k hk => by rw [hlabelled k hk]
        rw [total_eq, Course.countP_flatMap_events, ← hreadings]
        simp [parseResults, Attempt.event]
      labels := by
        intro method outcome
        rw [value_eq, Course.countP_flatMap_events]
        simp [parseResults, Attempt.event, beq_eq_decide, Prod.ext_iff, List.count]
      labelled := hlabelled
      agrees := hagrees
      decisions := by
        rw [total_eq, Course.countP_flatMap_events]
        simp [Metrics.decisions, Attempt.event]
      states := by
        intro state
        rw [value_eq, Course.countP_flatMap_events]
        simp [Metrics.decisions, Attempt.event, beq_eq_decide, DecisionState.word_injective.eq_iff]
      attempts := by
        intro model status
        rw [value_eq, Course.countP_flatMap_events]
        simp [modelAttempts, Attempt.event, beq_eq_decide]
      consulted := by
        intro k hk v hv
        obtain ⟨call, t, rfl⟩ := course_of_mem hk
        exact attempts_of_survey hv
      failures := by
        rw [total_eq, Course.countP_flatMap_events]
        simp [Metrics.renderFailures, Attempt.event] }

/-- A policy that cannot do without the name of a service, and whose only option lacks a command. -/
def needy : Json := .object [
  ("alert_type", .string "disk_full"),
  ("patterns", .array [.object [("pattern", .string "disk full")]]),
  ("critical_fields", .array [.string "service_name"]),
  ("action_templates", .array [.object [("template", .string "MCP:gcloud_command")]])]

/-- What a model answers. -/
def served : Json := .object [
  ("alert_type", .string "disk_full"), ("project_id", .null), ("instance_name", .null),
  ("metric_labels", .object []), ("confidence", .int 1), ("missing_fields", .array []),
  ("service_name", .string "api")]

/-- A backend without the preferred model and with one that gives the answer. Then it is silent. -/
def substituting : Backend :=
  .replying [.listing ["mistral"], .answer 404 "", .saying (served.write .ascii)]

/-- How many readings, attempts, decisions and failed options are counted. -/
def totals (journal : Journal) : List Nat :=
  [parseResults, modelAttempts, Metrics.decisions, Metrics.renderFailures].map (total · journal)

/-- One text is completed in the second attempt, decided about and reported with a failed option, and
the other one nobody can interpret. -/
theorem addsUp_substituting :
    ∃ policy, Policy.check needy = .valid policy ∧
      totals (after substituting (.holding .nearby [policy])
        [.ofText "disk full", .ofText "hello"]).journal = [2, 2, 1, 1] ∧
      AddsUp (courses substituting (.holding .nearby [policy])
          [.ofText "disk full", .ofText "hello"])
        (after substituting (.holding .nearby [policy])
          [.ofText "disk full", .ofText "hello"]).journal := by
  have hrun : ((Policy.check needy).toOption.map fun policy => totals
      (after substituting (.holding .nearby [policy])
        [.ofText "disk full", .ofText "hello"]).journal) = some [2, 2, 1, 1] := by
    decide +kernel
  have hreplies : substituting.Replies :=
    Backend.replies_replying (by simp [Reply.listing, Reply.saying])
  obtain ⟨policy, hpolicy, htotals⟩ := Option.map_eq_some_iff.mp hrun
  exact ⟨policy, Checked.toOption_eq_some_iff.mp hpolicy, htotals,
    addsUp (Session.isChecked_holding rfl [policy]) rfl hreplies _⟩

end Call

end Analysis

end Triage
