import Triage.Proofs.Isolation

/-!
# Several options stand in a summary by their outlines

Of several options a summary lists labels and descriptions, which are the policy's own, and which
of them have failed. What their tools write does not come into it. So two toolboxes give the same
summary if they fail on the same templates, whatever else they write
(`Report.isDiscreet_of_report`). That they have to fail on the same ones is no more than needed:
from the list it can be read again which options have failed (`Summary.join_lines_eq_iff`).
-/

namespace Triage

open ActionOption

/-- Two options with the same label and description. -/
structure ActionOption.Corresponds (o o' : ActionOption) : Prop where
  label : o.label = o'.label
  description : o.description = o'.description

theorem ActionOption.corresponds_ofTemplate (box box' : Toolbox) (fields : Record)
    (t : ActionTemplate) : Corresponds (ofTemplate box fields t) (ofTemplate box' fields t) := by
  have hown (box : Toolbox) : (ofTemplate box fields t).label = t.label ∧
      (ofTemplate box fields t).description = t.description := by
    rw [ofTemplate]
    split
    · exact ⟨rfl, rfl⟩
    · split <;> exact ⟨rfl, rfl⟩
  exact ⟨(hown box).1.trans (hown box').1.symm, (hown box).2.trans (hown box').2.symm⟩

namespace Summary

variable {o o' : ActionOption} {index : Nat}

/-! ## The lines of a list -/

/-- What stands behind an option that has failed. -/
def failureNote (failed : Bool) : List Char := if failed then " (unavailable)".toList else []

/-- What stands in a list behind the line of an option: the lines of the others, each below the
last. -/
def below (index : Nat) : List ActionOption → List Char
  | [] => []
  | options => '\n' :: (Text.join "\n" (lines index options)).toList

theorem toList_join_lines_cons (index : Nat) (o : ActionOption) (rest : List ActionOption) :
    (Text.join "\n" (lines index (o :: rest))).toList =
      (line index o).toList ++ below (index + 1) rest := by
  cases rest with
  | nil => simp [lines, Text.join, below]
  | cons second rest =>
      simp only [lines, Text.join, below, String.intercalate_cons_cons]
      simp

/-- The line of an option is that of the option without a failure, and what stands behind it. -/
theorem toList_line (index : Nat) (o : ActionOption) :
    (line index o).toList =
      (line index { o with failed := false }).toList ++ failureNote o.failed := by
  unfold line failureNote
  cases o.failed <;> simp

theorem line_congr (h : Corresponds o o') :
    line index { o with failed := false } = line index { o' with failed := false } := by
  unfold line
  simp only [h.label, h.description]

/-- Where an option ends, it can be told whether it has failed. -/
theorem failureNote_append_inj {failed failed' : Bool} {s s' : List Char}
    (hs : s.head? ≠ some ' ') (hs' : s'.head? ≠ some ' ') :
    failureNote failed ++ s = failureNote failed' ++ s' ↔ failed = failed' ∧ s = s' := by
  cases failed <;> cases failed' <;> simp [failureNote]
  · rintro rfl
    exact hs rfl
  · rintro rfl
    exact hs' rfl

theorem head?_below (index : Nat) (options : List ActionOption) :
    (below index options).head? ≠ some ' ' := by
  cases options with
  | nil => simp [below]
  | cons o rest => simp [below]

/-- **A list of options can be read again**: two lists with the same labels and descriptions are the
same text exactly where the same options have failed. -/
theorem join_lines_eq_iff {α : Type} {f g : α → ActionOption} (h : ∀ t, Corresponds (f t) (g t))
    (index : Nat) (ts : List α) :
    Text.join "\n" (lines index (ts.map f)) = Text.join "\n" (lines index (ts.map g)) ↔
      ∀ t ∈ ts, (f t).failed = (g t).failed := by
  induction ts generalizing index with
  | nil => simp
  | cons t ts ih =>
      have hbelow : below (index + 1) (ts.map f) = below (index + 1) (ts.map g) ↔
          ∀ t ∈ ts, (f t).failed = (g t).failed := by
        rw [← ih (index + 1)]
        cases ts with
        | nil => simp
        | cons _ _ => simp [below, String.toList_inj]
      rw [List.map_cons, List.map_cons, ← String.toList_inj, toList_join_lines_cons,
        toList_join_lines_cons, toList_line _ (f t), toList_line _ (g t), line_congr (h t),
        List.append_assoc, List.append_assoc, List.append_cancel_left_eq,
        failureNote_append_inj (head?_below _ _) (head?_below _ _), hbelow, List.forall_mem_cons]

/-! ## Summaries of lists -/

theorem aggregate_of_two_le {options : List ActionOption} (h : 2 ≤ options.length) :
    aggregate options = some (Text.join "\n" (lines 1 options)) := by
  match options, h with
  | _ :: _ :: _, _ => rfl

theorem render_congr {options options' : List ActionOption}
    (h : aggregate options = aggregate options') (template : Option String) (fields : Record) :
    render template options fields = render template options' fields := by
  unfold render
  rw [h]

/-- Without a template the text for the options is the summary. -/
theorem render_of_blank {template : Option String} (h : template = none ∨ template = some "")
    (options : List ActionOption) (fields : Record) :
    render template options fields = (aggregate options).getD approvalRequired := by
  rcases h with rfl | rfl <;> rfl

end Summary

namespace Report

variable {box box' : Toolbox} {fields : Record} {templates : List ActionTemplate} {policy : Policy}

/-- Two toolboxes fail on the same templates. -/
def FailAlike (box box' : Toolbox) (fields : Record) (templates : List ActionTemplate) : Prop :=
  ∀ t ∈ templates, (∃ fault, Fails box fields t fault) ↔ ∃ fault, Fails box' fields t fault

theorem failAlike_iff : FailAlike box box' fields templates ↔
    ∀ t ∈ templates, (ofTemplate box fields t).failed = (ofTemplate box' fields t).failed := by
  refine forall₂_congr fun t _ => ?_
  rw [← failed_ofTemplate_iff, ← failed_ofTemplate_iff]
  exact Bool.eq_iff_iff.symm

/-- What the reports by two toolboxes have in common, where a policy has several templates. -/
structure IsDiscreet (box box' : Toolbox) (alert : Alert) (policy : Policy) (r r' : Report) :
    Prop where
  /-- If they fail on the same templates, the summaries are the same. -/
  summary_eq : FailAlike box box' alert.fields policy.actionTemplates → r.summary = r'.summary
  /-- Without a template for it, the summary tells on which templates a toolbox fails. -/
  failAlike : policy.summaryTemplate = none ∨ policy.summaryTemplate = some "" →
    r.summary = r'.summary → FailAlike box box' alert.fields policy.actionTemplates

/-- What stands in a summary for the options of several templates. -/
theorem aggregate_optionsFor (htwo : 2 ≤ policy.actionTemplates.length) (box : Toolbox)
    (fields : Record) :
    Summary.aggregate (optionsFor box (some policy) fields) =
      some (Text.join "\n"
        (Summary.lines 1 (policy.actionTemplates.map (ofTemplate box fields)))) :=
  Summary.aggregate_of_two_le (by rwa [optionsFor, List.length_map])

/-- **Of what tools write, nothing comes into the summary of several options** but which of them
have failed. -/
theorem isDiscreet_of_report (htwo : 2 ≤ policy.actionTemplates.length) (box box' : Toolbox)
    (now : String) (alert : Alert) (decision : Decision) (originalText modelUsed : Option String)
    (s s' : Session) :
    ∃ (r r' : Report) (after after' : Session),
      (Analysis.report box now alert decision (some policy) originalText modelUsed).inSession s =
        (.ok r, after) ∧
      (Analysis.report box' now alert decision (some policy) originalText modelUsed).inSession s' =
        (.ok r', after') ∧
      IsDiscreet box box' alert policy r r' := by
  refine ⟨make box now alert decision (some policy) originalText modelUsed,
    make box' now alert decision (some policy) originalText modelUsed, _, _, rfl, rfl, ?_⟩
  have hlines := Summary.join_lines_eq_iff (corresponds_ofTemplate box box' alert.fields) 1
    policy.actionTemplates
  rw [← failAlike_iff] at hlines
  have hbox := aggregate_optionsFor htwo box alert.fields
  have hbox' := aggregate_optionsFor htwo box' alert.fields
  constructor
  case summary_eq =>
    intro halike
    refine Summary.render_congr ?_ policy.summaryTemplate alert.fields
    rw [hbox, hbox', hlines.mpr halike]
  case failAlike =>
    intro hblank hsummary
    rw [← hlines]
    have htext : Summary.render policy.summaryTemplate _ alert.fields =
      Summary.render policy.summaryTemplate _ alert.fields := hsummary
    rwa [Summary.render_of_blank hblank, Summary.render_of_blank hblank, hbox, hbox'] at htext

/-- A policy with a command that its tool accepts and one that it refuses. -/
def twofold : Policy where
  alertType := "disk_full"
  name := none
  description := none
  patterns := []
  extractionDefaults := []
  actionTemplates := [
    ⟨"Grow", some "Adds space", "MCP:gcloud_command", [("command", .string "gcloud disks grow")]⟩,
    ⟨"Wipe", none, "MCP:gcloud_command", [("command", .string "rm -r /data")]⟩]
  summaryTemplate := some "\x7baction\x7d: \x7baction_options\x7d"
  decisionRules := []
  defaultDecision := none
  sampleTexts := []
  criticalFields := []
  guard := none
  promptHints := []
  alertType_ne := by decide

/-- An alert with nothing but its type. -/
def bare : Alert where
  alertType := "disk_full"
  projectId := none
  instanceName := none
  metricLabels := []
  confidence := .one
  missingFields := []
  parseMethod := .policy
  thresholdPercent := none
  valuePercent := none
  detail := fun _ => none
  extras := []

/-- A toolbox that refuses what the tools refuse, and writes words of its own all the same. -/
def whispering : Toolbox := fun tool p =>
  match tool.render p with
  | .ok _ => .ok ⟨"\x7baction\x7d", []⟩
  | .error _ => .error (.refused "\x7baction_options\x7d")

/-- The report that a toolbox comes to. -/
def ofBare (box : Toolbox) : Except Failure Report × Session :=
  (Analysis.report box "" bare ⟨.noAction, none, ""⟩ (some twofold) none none).inSession
    (.start ⟨[], [], [], [], [], []⟩ none)

/-- Placeholders among the words of a tool come to nothing. -/
theorem isDiscreet_whispering : 2 ≤ twofold.actionTemplates.length ∧
    FailAlike .builtin whispering bare.fields twofold.actionTemplates ∧
    ∃ (r r' : Report) (after after' : Session), ofBare .builtin = (.ok r, after) ∧
      ofBare whispering = (.ok r', after') ∧ IsDiscreet .builtin whispering bare twofold r r' ∧
      r.summary = r'.summary := by
  have htwo : 2 ≤ twofold.actionTemplates.length := by decide
  have halike : FailAlike .builtin whispering bare.fields twofold.actionTemplates :=
    failAlike_iff.mpr (by decide +kernel)
  obtain ⟨r, r', after, after', hr, hr', h⟩ :=
    isDiscreet_of_report htwo .builtin whispering "" bare ⟨.noAction, none, ""⟩ none none
      (.start ⟨[], [], [], [], [], []⟩ none) (.start ⟨[], [], [], [], [], []⟩ none)
  exact ⟨htwo, halike, r, r', after, after', hr, hr', h, h.summary_eq halike⟩

end Report
end Triage
