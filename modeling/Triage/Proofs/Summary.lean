import Triage.Proofs.Substitution
import Triage.Report.Summary

/-!
# Summaries in one pass

A summary is made in three passes: the fields of the alert are filled in, then the text for the
options replaces every `action_options` of the result, then every `action` of that. What is wanted is
one pass over the template (`onePass`), which never looks at what it has put in. The two agree exactly
where no pass meets a placeholder that is not the template's own (`render_eq_onePass_iff`): none may
have come in with the value of a field or with the text for the options.
-/

namespace Triage

namespace Template

theorem ofList_eq_iff {chars : List Char} {s : String} : String.ofList chars = s ↔ chars = s.toList := by
  rw [← String.toList_inj, String.toList_ofList]

theorem count_placeholders (name template : String) :
    (placeholders template).count name = occurrences name.toList template.toList := by
  unfold placeholders spans occurrences
  induction spansFrom 0 template.toList with
  | nil => rfl
  | cons x xs ih =>
      cases x with
      | literal text => simpa using ih
      | placeholder other =>
          simp only [List.filterMap_cons, List.count_cons, ih, beq_iff_eq, ofList_eq_iff,
            Span.placeholder.injEq]

end Template

namespace Summary

open Template Triage.Span

/-- The names of the placeholders of the options. -/
def optionNames : List String := ["action_options", "action"]

/-- The text for the options. -/
def text (options : List ActionOption) : String := (aggregate options).getD approvalRequired

/-- What stands in a summary for a span of its template. -/
def fill (text : String) (fields : Record) : Span → List Char
  | .literal chars => chars
  | .placeholder name =>
    if String.ofList name ∈ optionNames then text.toList else Span.render fields (.placeholder name)

/-- A template with all its placeholders filled in one pass: what is put in is not looked at again. -/
def onePass (template text : String) (fields : Record) : String :=
  String.ofList ((spans template).flatMap (fill text fields))

/-- A template with its fields filled in and then the text for the options in the place of the first of
their placeholders. -/
def listed (template text : String) (fields : Record) : String :=
  Text.replace (Template.render template fields) "\x7baction_options\x7d" text

/-- A text made from a template has the placeholders of a name that the template has: none came in
with an inserted text, and none was made up by texts that were put next to each other. -/
def NoneNew (name template text : String) : Prop :=
  (placeholders text).count name = (placeholders template).count name

instance (name template text : String) : Decidable (NoneNew name template text) :=
  inferInstanceAs (Decidable (_ = _))

theorem isName_actionOptions : IsName "action_options".toList :=
  ⟨'a', _, rfl, by decide, List.all_eq_true.mp rfl⟩

theorem isName_action : IsName "action".toList := ⟨'a', _, rfl, by decide, List.all_eq_true.mp rfl⟩

theorem fill_eq_filling (text : String) (fields : Record) :
    fill text fields =
      filling (.placeholder "action".toList) text.toList
        (filling (.placeholder "action_options".toList) text.toList (Span.render fields)) := by
  funext x
  cases x with
  | literal chars => simp [fill, filling, Span.render]
  | placeholder name =>
      simp only [fill, optionNames, filling, List.mem_cons, List.not_mem_nil, or_false,
        ofList_eq_iff, Span.placeholder.injEq]
      by_cases haction : name = "action".toList
      · rw [if_pos (.inr haction), if_pos haction]
      · simp only [haction, or_false, if_false]

/-- A field without a value leaves its placeholder as it is. -/
theorem render_of_null {fields : Record} {name : String} (h : fields.getD name = .null) :
    Span.render fields (.placeholder name.toList) = (Span.placeholder name.toList).raw := by
  have hvalue : Span.value? fields name.toList = none := by
    rw [Span.value?_eq_none_iff, String.ofList_toList, h]
  rw [Span.render, hvalue]

theorem toList_replace {s placeholder : String} {name : List Char} (h : IsName name)
    (hraw : placeholder.toList = (Span.placeholder name).raw) (new : String) :
    (Text.replace s placeholder new).toList = exchanged name new.toList s.toList := by
  rw [Text.replace, String.toList_ofList, hraw, replaceFrom_raw h]
  rfl

theorem noneNew_iff {name template text : String} :
    NoneNew name template text ↔
      occurrences name.toList text.toList = (spans template).count (.placeholder name.toList) := by
  rw [NoneNew, count_placeholders, count_placeholders]
  rfl

theorem render_eq_replace {template : String} {options : List ActionOption} {fields : Record}
    (h : template ≠ "") :
    render (some template) options fields =
      Text.replace (listed template (text options) fields) "\x7baction\x7d" (text options) := by
  unfold render
  split
  · contradiction
  · rename_i hempty
    exact absurd (Option.some.inj hempty) h
  · rename_i hsome
    obtain rfl := Option.some.inj hsome
    rfl

/-- **A summary is made as by one pass over its template exactly where neither exchange meets a
placeholder that is not the template's own**, but for a text for the options that is that placeholder
itself. -/
theorem render_eq_onePass_iff {template : String} {options : List ActionOption} {fields : Record}
    (htemplate : template ≠ "") (hoptions : fields.getD "action_options" = .null)
    (haction : fields.getD "action" = .null) :
    render (some template) options fields = onePass template (text options) fields ↔
      (NoneNew "action_options" template (Template.render template fields) ∨
        text options = "\x7baction_options\x7d") ∧
      (NoneNew "action" template (listed template (text options) fields) ∨
        text options = "\x7baction\x7d") := by
  have hraw : "\x7baction_options\x7d".toList = (Span.placeholder "action_options".toList).raw := by
    decide
  have hraw' : "\x7baction\x7d".toList = (Span.placeholder "action".toList).raw := by decide
  have hfilled : (Template.render template fields).toList =
      (spans template).flatMap (Span.render fields) := String.toList_ofList
  have hlisted := toList_replace (s := Template.render template fields) isName_actionOptions hraw
    (text options)
  have honePass : (onePass template (text options) fields).toList =
      (spans template).flatMap (fill (text options) fields) := String.toList_ofList
  rw [fill_eq_filling] at honePass
  rw [hfilled] at hlisted
  rw [← String.toList_inj, ← String.toList_inj, ← String.toList_inj, render_eq_replace htemplate,
    toList_replace isName_action hraw', honePass, noneNew_iff, noneNew_iff, hfilled, listed, hlisted,
    hraw, hraw']
  exact exchanged_exchanged_iff isName_actionOptions isName_action (by decide)
    (render_of_null hoptions) (render_of_null haction) (w := List.count '_')
    (fun _ _ => List.count_append) (by decide) (by decide)

/-- An option with nothing but its action. -/
def sole (action : String) : ActionOption := ⟨"Default", none, action, none, [], false⟩

/-- Braces in an action are let through where they do not name a placeholder of the options. -/
theorem render_eq_onePass_quoted :
    render (some "Disk on \x7binstance_name\x7d: \x7baction_options\x7d") [sole "echo $\x7bHOME\x7d"]
        [("instance_name", .string "vm-1")] =
      onePass "Disk on \x7binstance_name\x7d: \x7baction_options\x7d" (text [sole "echo $\x7bHOME\x7d"])
        [("instance_name", .string "vm-1")] :=
  (render_eq_onePass_iff (by decide) rfl rfl).mpr
    ⟨.inl (by decide +kernel), .inl (by decide +kernel)⟩

/-- **An inserted action is rewritten** where it names the placeholder of the second exchange. -/
theorem render_twice :
    render (some "\x7baction_options\x7d") [sole "run \x7baction\x7d"] [] =
        "run run \x7baction\x7d" ∧
      onePass "\x7baction_options\x7d" (text [sole "run \x7baction\x7d"]) [] =
        "run \x7baction\x7d" := by
  decide +kernel

end Summary
end Triage
