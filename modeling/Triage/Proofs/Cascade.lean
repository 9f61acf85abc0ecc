import Triage.Proofs.Exchange
import Triage.Proofs.Settings

/-!
# The cascade stops at the first final attempt

Which models a run asks, and what it makes of their replies, is settled by one list: the
*prospects*, the attempts that the candidates would make if all of them were asked one after
another. A run makes the prospects up to and including the first final one (`attempts_inSession`),
and what comes of them is read off the last attempt made (`verdict_inSession`). Both together are
`IsSettled`.

There are prospects only of the candidates in front of one whose name cannot be written. If all of
these fail, the run stops at that one (`StopsAt`).

The induction is over the candidates still to be asked. It is carried by what one attempt does to
a session (`attempt_inSession`): it adds its request and a note of itself, and nothing else.
-/

namespace Triage

/-- What a call for a chat amounts to. No reply makes a call break down. -/
def AttemptEnd.ofCall : Except CallFault String → AttemptEnd
  | .ok content => Cascade.ofReply content
  | .error (.backend e) => .failure e.message e.category
  | .error (.breakdown b) => .failure b.message "unknown"

/-- The alert that a verdict gives, if it gives one. -/
def Verdict.alert? : Verdict → Option Alert
  | .alert found _ _ => some found
  | _ => Option.none

namespace Attempt

/-- The alert that an attempt gives, if it succeeds. -/
def alert? (a : Attempt) : Option Alert :=
  match a.ending with
  | .success alert => some alert
  | _ => none

/-- The attempt failed in a way that another model may do better in. -/
def IsRetryable (a : Attempt) : Prop :=
  ∃ reason category : String, a.ending = .failure reason category

/-- The name of its model, as a catalogue gives it. -/
def name (a : Attempt) : ModelName := Text.points a.model

/-- The note made of an attempt. -/
def event (a : Attempt) : Event := .attempt a.model a.ending.word .zero

/-- Attempts in order, up to and including the first final one. -/
def throughFinal : List Attempt → List Attempt
  | [] => []
  | a :: rest => if a.ending.isFinal then [a] else a :: throughFinal rest

variable {as : List Attempt} {a : Attempt}

theorem isRetryable_iff : a.IsRetryable ↔ a.ending.isFinal = false := by
  unfold IsRetryable
  cases a.ending with
  | success alert => simp [AttemptEnd.isFinal]
  | failure reason category => simp [AttemptEnd.isFinal]
  | negative => simp [AttemptEnd.isFinal]

theorem throughFinal_initial (as : List Attempt) : throughFinal as <+: as := by
  induction as with
  | nil => exact List.prefix_rfl
  | cons a rest ih =>
      rw [throughFinal]
      by_cases ha : a.ending.isFinal = true
      · rw [if_pos ha]
        exact ⟨rest, rfl⟩
      · rw [if_neg ha]
        exact (List.prefix_cons_inj a).mpr ih

theorem throughFinal_ne_nil (h : as ≠ []) : throughFinal as ≠ [] := by
  cases as with
  | nil => exact absurd rfl h
  | cons a rest =>
      rw [throughFinal]
      split <;> simp

/-- Only the last one can be final. -/
theorem isRetryable_of_mem_dropLast (h : a ∈ (throughFinal as).dropLast) : a.IsRetryable := by
  rw [isRetryable_iff]
  induction as with
  | nil => simp [throughFinal] at h
  | cons b rest ih =>
      rw [throughFinal] at h
      by_cases hb : b.ending.isFinal = true
      · simp [hb] at h
      · rw [if_neg hb] at h
        by_cases hrest : rest = []
        · simp [hrest, throughFinal] at h
        · rw [List.dropLast_cons_of_ne_nil (throughFinal_ne_nil hrest)] at h
          rcases List.mem_cons.mp h with rfl | h
          · simpa using hb
          · exact ih h

/-- The last one is the first final one, if there is one at all. -/
theorem getLast?_throughFinal_of_find? (h : (as.find? (·.ending.isFinal)) = some a) :
    (throughFinal as).getLast? = some a := by
  induction as with
  | nil => simp at h
  | cons b rest ih =>
      rw [throughFinal]
      by_cases hb : b.ending.isFinal = true
      · rw [if_pos hb]
        simpa [hb] using h
      · rw [if_neg hb]
        rw [List.find?_cons_of_neg (by simpa using hb)] at h
        rw [List.getLast?_cons, ih h]
        rfl

/-- Without a final one there is nothing to stop at. -/
theorem throughFinal_of_find?_none (h : (as.find? (·.ending.isFinal)) = none) :
    throughFinal as = as := by
  induction as with
  | nil => rfl
  | cons b rest ih =>
      rw [List.find?_cons] at h
      split at h
      · cases h
      · rename_i hb
        rw [throughFinal, if_neg (by simp [hb]), ih h]

theorem isRetryable_of_find?_none (h : (as.find? (·.ending.isFinal)) = none) (ha : a ∈ as) :
    a.IsRetryable := by
  rw [isRetryable_iff]
  simpa using List.find?_eq_none.mp h a ha

/-- There is a final one among them exactly where there is one at all. -/
theorem any_throughFinal (as : List Attempt) :
    ((throughFinal as).any (·.ending.isFinal)) = as.any (·.ending.isFinal) := by
  induction as with
  | nil => rfl
  | cons a rest ih =>
      rw [throughFinal]
      split
      · rename_i ha
        simp [ha]
      · rw [List.any_cons, List.any_cons, ih]

theorem any_isFinal_eq_false_iff :
    (as.any (·.ending.isFinal)) = false ↔ ∀ a ∈ as, a.IsRetryable := by
  simp only [isRetryable_iff, List.any_eq_false, Bool.not_eq_true]

theorem throughFinal_of_isRetryable (h : ∀ a ∈ as, a.IsRetryable) : throughFinal as = as := by
  refine throughFinal_of_find?_none (List.find?_eq_none.mpr fun a ha => ?_)
  rw [isRetryable_iff.mp (h a ha)]
  exact Bool.false_ne_true

theorem not_isRetryable_of_find? (h : (as.find? (·.ending.isFinal)) = some a) :
    ¬ a.IsRetryable := by
  rw [isRetryable_iff]
  simpa using List.find?_some h

end Attempt

/-- A session that has been given its client and its policies. -/
def Session.holding (c : Client) (policies : List Policy) : Session :=
  { Session.start ⟨[], [], [], [], [], []⟩ none with
    client := some c
    store := ⟨none, some ([], policies)⟩ }

theorem Session.isChecked_holding {c : Client} (h : c.temperature.isFinite = true)
    (policies : List Policy) : (Session.holding c policies).IsChecked :=
  ⟨by simp [holding, start], by simpa [holding] using h⟩

namespace Reading

/-- What was found, if anything was. -/
def found? : Except Failure Reading → Option Interpretation
  | .ok (.found i) => some i
  | _ => none

/-- What a run over a single policy finds can be had by evaluation. -/
theorem exists_found {α : Type} {document : Json} {backend : Backend}
    {given : Option (List String)} {text : String} {a : α} (view : Policy → Interpretation → α)
    (h : ((Policy.check document).toOption.bind fun policy => (found?
      ((ofText backend given text).inSession (.holding .nearby [policy])).1).map (view policy)) =
        some a) :
    ∃ (policy : Policy) (i : Interpretation) (s' : Session),
      Policy.check document = .valid policy ∧
      (ofText backend given text).inSession (.holding .nearby [policy]) = (.ok (.found i), s') ∧
      view policy i = a := by
  obtain ⟨policy, hpolicy, hfound⟩ := Option.bind_eq_some_iff.mp h
  obtain ⟨i, hfound, hview⟩ := Option.map_eq_some_iff.mp hfound
  refine ⟨policy, i, _, Checked.toOption_eq_some_iff.mp hpolicy, Prod.ext ?_ rfl, hview⟩
  revert hfound
  rcases ((ofText backend given text).inSession (.holding .nearby [policy])).1
    with e | (found | ⟨reason, model⟩)
  · intro hnone
    cases hnone
  · intro hsome
    obtain rfl := Option.some.inj hsome
    rfl
  · intro hnone
    cases hnone

end Reading

namespace Cascade

open Attempt

variable {c : Client} {backend : Backend} {messages : Json} {model : String}
  {available models : List ModelName} {policies : List Policy} {s s₁ s₂ s₃ s' : Session}

/-! ## The candidates -/

/-- Collecting candidates is erasing duplicates behind those that have been collected. -/
theorem foldl_eq_eraseDups_loop (models available : List ModelName) :
    available.foldl
        (fun models model =>
          if isEmbedding model || models.contains model then models else models ++ [model])
        models =
      List.eraseDupsBy.loop (· == ·) (available.filter fun m => !isEmbedding m) models.reverse := by
  induction available generalizing models with
  | nil => simp [List.eraseDupsBy.loop]
  | cons m rest ih =>
      rw [List.foldl_cons, ih]
      by_cases he : isEmbedding m = true
      · simp [he]
      · have hany : (models.reverse.any fun b => m == b) = models.contains m := by
          rw [List.any_reverse, List.contains_eq_any_beq]
        rw [List.filter_cons_of_pos (by simpa using he), List.eraseDupsBy.loop, hany]
        cases hm : models.contains m with
        | true => simp
        | false => simp [he]

/-- The candidates: the preferred model, then the available ones that can chat, without
duplicates. -/
theorem candidates_eq (preferred : ModelName) (available : List ModelName) :
    candidates preferred available =
      (preferred :: available.filter fun m => !isEmbedding m).eraseDups := by
  rw [candidates, foldl_eq_eraseDups_loop]
  rfl

/-- Collecting candidates adds no model that is there already. -/
theorem nodup_collected (h : models.Nodup) :
    (available.foldl
      (fun models model =>
        if isEmbedding model || models.contains model then models else models ++ [model])
      models).Nodup := by
  induction available generalizing models with
  | nil => exact h
  | cons m rest ih =>
      rw [List.foldl_cons]
      split
      · exact ih h
      · rename_i hm
        refine ih (List.nodup_append.mpr ⟨h, by simp, ?_⟩)
        rintro a ha b hb rfl
        simp only [List.mem_singleton] at hb
        subst hb
        simp [ha] at hm

/-- No model is a candidate twice. -/
theorem nodup_candidates (preferred : ModelName) (available : List ModelName) :
    (candidates preferred available).Nodup :=
  nodup_collected (by simp)

/-! ## Names that can be written -/

/-- In front stand names that can be written, and then the one that cannot, if there is one. -/
theorem writable_spec (models : List ModelName) :
    ∃ rest, models = (writable models).1.map Text.points ++ (writable models).2.toList ++ rest ∧
      ((writable models).2 = none → rest = []) := by
  induction models with
  | nil => exact ⟨[], rfl, fun _ => rfl⟩
  | cons model rest ih =>
      rw [writable]
      cases hname : Text.whole? model with
      | none => exact ⟨rest, rfl, fun h => by cases h⟩
      | some name =>
          obtain ⟨behind, hmodels, hbehind⟩ := ih
          refine ⟨behind, ?_, hbehind⟩
          rw [List.map_cons, ← Text.whole?_eq_some_iff.mp hname, List.cons_append, List.cons_append,
            ← hmodels]

theorem map_points_writable_initial (models : List ModelName) :
    (writable models).1.map Text.points <+: models := by
  obtain ⟨rest, hmodels, -⟩ := writable_spec models
  exact ⟨(writable models).2.toList ++ rest, by rw [← List.append_assoc, ← hmodels]⟩

theorem map_points_writable (h : (writable models).2 = none) :
    (writable models).1.map Text.points = models := by
  obtain ⟨rest, hmodels, hrest⟩ := writable_spec models
  rw [h, hrest h] at hmodels
  simpa using hmodels.symm

theorem nodup_writable (h : models.Nodup) : (writable models).1.Nodup :=
  List.Pairwise.of_map Text.points (fun _ _ hne heq => hne (congrArg Text.points heq))
    ((map_points_writable_initial models).sublist.nodup h)

/-! ## Prospects -/

/-- The attempt that a model makes when it is asked. -/
def prospect (c : Client) (backend : Backend) (messages : Json) (past : List Request)
    (model : String) : Attempt :=
  ⟨model, .ofCall (c.chatBy messages model (backend past (c.chatRequest messages model)))⟩

/-- The attempts that models would make if all of them were asked, one after another. -/
def prospects (c : Client) (backend : Backend) (messages : Json) :
    List Request → List String → List Attempt
  | _, [] => []
  | past, model :: rest =>
    prospect c backend messages past model ::
      prospects c backend messages (past ++ [c.chatRequest messages model]) rest

theorem map_model_prospects (c : Client) (backend : Backend) (messages : Json)
    (past : List Request) (models : List String) :
    (prospects c backend messages past models).map Attempt.model = models := by
  induction models generalizing past with
  | nil => rfl
  | cons model rest ih =>
      rw [prospects, List.map_cons, ih]
      rfl

/-! ## The run -/

/-- The session after some attempts with a backend. -/
def after (c : Client) (messages : Json) (s : Session) (made : List Attempt) : Session :=
  { s with
    requests := s.requests ++ made.map fun a => c.chatRequest messages a.model
    journal := s.journal ++ made.map Attempt.event }

theorem after_nil (c : Client) (messages : Json) (s : Session) : after c messages s [] = s := by
  simp [after]

theorem after_after (c : Client) (messages : Json) (s : Session) (a : Attempt)
    (made : List Attempt) :
    after c messages (after c messages s [a]) made = after c messages s (a :: made) := by
  simp [after]

/-- An attempt asks its model, notes how that ended, and does nothing else to a session. -/
theorem attempt_inSession (hc : s.client = some c) (h : c.HasAddress)
    (ht : c.temperature.isFinite = true) (hm : messages.isFinite = true) (model : String)
    (hr : ∀ message, backend s.requests (c.chatRequest messages model) ≠ .crash message) :
    (attempt backend messages model).inSession s =
      (.ok (prospect c backend messages s.requests model),
        after c messages s [prospect c backend messages s.requests model]) := by
  obtain ⟨r, hcall⟩ := Client.chatBy_answers model h ht hm hr
  have hchat : c.chat backend model messages none s.requests =
      (s.requests ++ [c.chatRequest messages model], r.mapError .backend) := by
    rw [Client.chat_eq h ht hm, hcall]
  rw [prospect, hcall, attempt, Run.inSession_bind_ok (Run.inSession_client_of_some hc),
    Run.inSession_bind_ok (Run.inSession_call hchat)]
  cases r with
  | ok content => rfl
  | error e => rfl

/-- **The prospects are made up to and including the first final one.** -/
theorem attempts_inSession (hc : s.client = some c) (h : c.HasAddress)
    (ht : c.temperature.isFinite = true) (hm : messages.isFinite = true) (hr : backend.Replies)
    (models : List String) :
    (attempts (attempt backend messages) models).inSession s =
      (.ok (throughFinal (prospects c backend messages s.requests models)),
        after c messages s (throughFinal (prospects c backend messages s.requests models))) := by
  induction models generalizing s with
  | nil =>
      simp only [prospects, throughFinal, after_nil]
      rfl
  | cons model rest ih =>
      have hstep := attempt_inSession hc h ht hm model (hr _ _)
      rw [attempts, Run.inSession_bind_ok hstep, prospects, throughFinal]
      by_cases hf : (prospect c backend messages s.requests model).ending.isFinal = true
      · rw [if_pos hf, if_pos hf]
        rfl
      · -- the next model is asked in the session that this attempt leaves, its request included
        have hrest := ih (s := after c messages s [prospect c backend messages s.requests model]) hc
        rw [if_neg hf, if_neg hf, Run.inSession_bind_ok hrest, after_after]
        rfl

/-- Behind the attempts nothing is done, unless the next model cannot be asked and has to be. -/
theorem goOn_inSession (made : List Attempt) (next : Option ModelName)
    (h : ∀ model ∈ next, made.any (·.ending.isFinal) = true) :
    (goOn c messages made next).inSession s = (.ok (), s) := by
  cases next with
  | none => rfl
  | some model =>
      rw [goOn, if_pos (h model rfl)]
      rfl

theorem goOn_inSession_of_isRetryable {made : List Attempt} (model : ModelName)
    (h : ∀ a ∈ made, a.IsRetryable) :
    (goOn c messages made (some model)).inSession s =
      (.error (.breakdown (c.unasked messages model)), s) := by
  rw [goOn, any_isFinal_eq_false_iff.mpr h]
  rfl

/-- Whether or not a run goes on, its session stays as it is. -/
theorem keeps_goOn {α : Type} {view : Session → α} (made : List Attempt)
    (next : Option ModelName) : Run.Keeps view (goOn c messages made next) := by
  cases next with
  | none => exact Run.keeps_pure _
  | some model =>
      rw [goOn]
      split
      · exact Run.keeps_pure _
      · exact Run.keeps_throw _

theorem session_of_goOn {made : List Attempt} {next : Option ModelName} {o : Except Failure Unit}
    (h : (goOn c messages made next).inSession s = (o, s')) : s' = s :=
  (keeps_goOn made next : Run.Keeps id _).of_run h

/-! ## The verdict -/

/-- What attempts amount to when the policies are known. -/
def verdictBy (policies : List Policy) (made : List Attempt) : Verdict :=
  match made.getLast? with
  | some ⟨model, .success alert⟩ =>
    .alert alert (policies.find? fun p => p.alertType = alert.alertType) model
  | some ⟨model, .negative⟩ => .none model s!"Model {model} found no matching alert type"
  | _ => .failed (allFailed made)

theorem verdict_inSession {path : Path} (h : s.store.held = some (path, policies))
    (made : List Attempt) : (verdict made).inSession s = (.ok (verdictBy policies made), s) := by
  rw [verdict, verdictBy]
  rcases made.getLast? with _ | ⟨model, alert | ⟨reason, category⟩ | _⟩
  · rfl
  · dsimp only
    rw [Run.inSession_bind_ok (Store.inSession_find? h _)]
    rfl
  · rfl
  · rfl

/-- Telling the verdict can have the policies read again, and that is all it does. -/
theorem keeps_verdict {α : Type} {view : Session → α} (hconfig : Run.IgnoresConfig view)
    (hstore : ∀ (s : Session) (store : Store), view { s with store } = view s)
    (made : List Attempt) : Run.Keeps view (verdict made) := by
  rw [verdict]
  rcases made.getLast? with _ | ⟨model, alert | ⟨reason, category⟩ | _⟩
  · exact Run.keeps_pure _
  · exact Run.keeps_bind (Store.keeps_find? hconfig hstore _) fun _ => Run.keeps_pure _
  · exact Run.keeps_pure _
  · exact Run.keeps_pure _

theorem verdictBy_eq_alert_iff {made : List Attempt} {alert : Alert} {policy : Option Policy} :
    verdictBy policies made = .alert alert policy model ↔
      made.getLast? = some ⟨model, .success alert⟩ ∧
        policy = policies.find? fun p => p.alertType = alert.alertType := by
  rw [verdictBy]
  rcases made.getLast? with _ | ⟨m, found | ⟨reason, category⟩ | _⟩
  · simp
  · simp only [Verdict.alert.injEq, Option.some.injEq, Attempt.mk.injEq, AttemptEnd.success.injEq]
    constructor
    · rintro ⟨rfl, rfl, rfl⟩
      exact ⟨⟨rfl, rfl⟩, rfl⟩
    · rintro ⟨⟨rfl, rfl⟩, rfl⟩
      exact ⟨rfl, rfl, rfl⟩
  · simp
  · simp

theorem verdictBy_eq_none_iff {made : List Attempt} {reason : String} :
    verdictBy policies made = .none model reason ↔
      made.getLast? = some ⟨model, .negative⟩ ∧
        reason = s!"Model {model} found no matching alert type" := by
  rw [verdictBy]
  rcases made.getLast? with _ | ⟨m, found | ⟨why, category⟩ | _⟩
  · simp
  · simp
  · simp
  · simp only [Verdict.none.injEq, Option.some.injEq, Attempt.mk.injEq, and_true]
    constructor
    · rintro ⟨rfl, rfl⟩
      exact ⟨rfl, rfl⟩
    · rintro ⟨rfl, rfl⟩
      exact ⟨rfl, rfl⟩

theorem verdictBy_eq_failed_iff {made : List Attempt} {reason : String} :
    verdictBy policies made = .failed reason ↔
      (∀ a ∈ made.getLast?, a.IsRetryable) ∧ reason = allFailed made := by
  rw [verdictBy]
  rcases made.getLast? with _ | ⟨m, found | ⟨why, category⟩ | _⟩
  · simp [eq_comm]
  · simp [IsRetryable]
  · simp [IsRetryable, eq_comm]
  · simp [IsRetryable]

theorem alert?_verdictBy (policies : List Policy) (made : List Attempt) :
    (verdictBy policies made).alert? = made.getLast?.bind Attempt.alert? := by
  rw [verdictBy]
  rcases made.getLast? with _ | ⟨m, found | ⟨why, category⟩ | _⟩ <;> rfl

/-! ## Settled consultations -/

/-- All prospects fail, and the model that is next then has a name that cannot be written. -/
def StopsAt (models : List ModelName) (prospects : List Attempt) (model : ModelName) : Prop :=
  (writable models).2 = some model ∧ ∀ a ∈ prospects, a.IsRetryable

/-- What a consultation of the candidates comes to, given their prospects. -/
structure IsSettled (policies : List Policy) (models : List ModelName)
    (prospects made : List Attempt) (verdict : Verdict) : Prop where
  /-- The models asked are the first candidates, in their order. -/
  models_initial : made.map Attempt.name <+: models
  /-- No model is asked twice. -/
  nodup : (made.map Attempt.name).Nodup
  /-- What is made of a model's reply is its prospect. -/
  prospects_initial : made <+: prospects
  /-- Every attempt but the last one failed in a way that another model may do better in. -/
  retried : ∀ a ∈ made.dropLast, a.IsRetryable
  /-- There is an alert exactly where the last attempt gave it, with the policy for its type. -/
  alert_iff : ∀ (alert : Alert) (policy : Option Policy) (model : String),
    verdict = .alert alert policy model ↔
      made.getLast? = some ⟨model, .success alert⟩ ∧
        policy = policies.find? fun p => p.alertType = alert.alertType
  /-- The text is no alert exactly where the last attempt said so. -/
  none_iff : ∀ model reason : String,
    verdict = .none model reason ↔
      made.getLast? = some ⟨model, .negative⟩ ∧
        reason = s!"Model {model} found no matching alert type"
  /-- Otherwise all candidates failed, and all their errors are told in order. -/
  failed_iff : ∀ reason : String,
    verdict = .failed reason ↔
      made.map Attempt.name = models ∧ (∀ a ∈ made, a.IsRetryable) ∧ reason = allFailed made
  /-- The alert depends on the first candidate alone whose prospect is no such failure. -/
  alert_eq : verdict.alert? = (prospects.find? (·.ending.isFinal)).bind Attempt.alert?

/-- All candidates were asked and failed exactly where none is final to stop the cascade. -/
theorem verdictBy_throughFinal_eq_failed_iff {prospects : List Attempt} {reason : String}
    (hall : (∀ a ∈ prospects, a.IsRetryable) → prospects.map Attempt.name = models) :
    verdictBy policies (throughFinal prospects) = .failed reason ↔
      (throughFinal prospects).map Attempt.name = models ∧
        (∀ a ∈ throughFinal prospects, a.IsRetryable) ∧
        reason = allFailed (throughFinal prospects) := by
  rw [verdictBy_eq_failed_iff]
  cases hf : prospects.find? (·.ending.isFinal) with
  | none =>
      have hretryable : ∀ a ∈ prospects, a.IsRetryable := fun a => isRetryable_of_find?_none hf
      rw [throughFinal_of_find?_none hf]
      constructor
      · rintro ⟨_, hreason⟩
        exact ⟨hall hretryable, hretryable, hreason⟩
      · rintro ⟨_, hall, hreason⟩
        exact ⟨fun a ha => hall a (List.mem_of_getLast? ha), hreason⟩
  | some a =>
      have hlast := getLast?_throughFinal_of_find? hf
      constructor
      · rintro ⟨h, _⟩
        exact absurd (h a hlast) (not_isRetryable_of_find? hf)
      · rintro ⟨_, h, _⟩
        exact absurd (h a (List.mem_of_getLast? hlast)) (not_isRetryable_of_find? hf)

theorem alert?_verdictBy_throughFinal (policies : List Policy) (prospects : List Attempt) :
    (verdictBy policies (throughFinal prospects)).alert? =
      (prospects.find? (·.ending.isFinal)).bind Attempt.alert? := by
  rw [alert?_verdictBy]
  cases hf : prospects.find? (·.ending.isFinal) with
  | some a => rw [getLast?_throughFinal_of_find? hf]
  | none =>
      rw [throughFinal_of_find?_none hf]
      cases hl : prospects.getLast? with
      | none => rfl
      | some a =>
          obtain ⟨reason, category, ha⟩ :=
            isRetryable_of_find?_none hf (List.mem_of_getLast? hl)
          simp [Attempt.alert?, ha]

/-- The prospects up to and including the first final one settle a consultation, if they are those of
all candidates where all of them fail. -/
theorem isSettled_throughFinal {prospects : List Attempt} (hnd : models.Nodup)
    (hm : prospects.map Attempt.name <+: models)
    (hall : (∀ a ∈ prospects, a.IsRetryable) → prospects.map Attempt.name = models) :
    IsSettled policies models prospects (throughFinal prospects)
      (verdictBy policies (throughFinal prospects)) := by
  have hinitial : (throughFinal prospects).map Attempt.name <+: models :=
    ((throughFinal_initial prospects).map Attempt.name).trans hm
  exact
    { models_initial := hinitial
      nodup := hinitial.sublist.nodup hnd
      prospects_initial := throughFinal_initial prospects
      retried := fun a ha => isRetryable_of_mem_dropLast ha
      alert_iff := fun alert policy model => verdictBy_eq_alert_iff
      none_iff := fun model reason => verdictBy_eq_none_iff
      failed_iff := fun reason => verdictBy_throughFinal_eq_failed_iff hall
      alert_eq := alert?_verdictBy_throughFinal policies prospects }

end Cascade
end Triage
