import Triage.Report.Option

/-!
# Summaries

One option stands in the summary with its whole action, several with their labels and descriptions
only. A summary template is filled with the fields first; then what stands for the options takes the
place of its placeholders.
-/

namespace Triage.Summary

/-- Stands for the options where there are none. -/
def approvalRequired : String := "Approval required"

/-- The placeholders of the options, in the order in which they are replaced. -/
def optionPlaceholders : List String := ["\x7baction_options\x7d", "\x7baction\x7d"]

/-- The line of an option among several. -/
def line (index : Nat) (o : ActionOption) : String :=
  let description := match o.description with
    | none | some "" => ""
    | some d => ": " ++ d
  s!"{Text.ofNat index}. {o.label}" ++ description ++ (if o.failed then " (unavailable)" else "")

/-- The lines of options, the first with the number `index`. -/
def lines : Nat → List ActionOption → List String
  | _, [] => []
  | index, o :: rest => line index o :: lines (index + 1) rest

/-- What stands for the options, if there are any. -/
def aggregate : List ActionOption → Option String
  | [] => none
  | [o] => some o.action
  | options => some (Text.join "\n" (lines 1 options))

/-- The summary of the options for the fields of an alert. -/
def render (template : Option String) (options : List ActionOption) (fields : Record) : String :=
  let text := (aggregate options).getD approvalRequired
  match template with
  | none | some "" => text
  | some template =>
    optionPlaceholders.foldl (fun summary placeholder => Text.replace summary placeholder text)
      (Template.render template fields)

end Triage.Summary
