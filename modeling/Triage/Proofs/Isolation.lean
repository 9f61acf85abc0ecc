import Triage.Analysis
import Triage.Proofs.Run
import Triage.Proofs.Schema

/-!
# Options do not disturb each other

A tool can come to nothing in three ways (`ActionOption.Fails`): there is none of its name, its
parameters cannot be resolved, or the one who writes its text refuses or breaks down. Nothing is
assumed of those who write the texts. All three ways end in the option of that template and nowhere
else, so a report is always made, and its options are those that the templates have each alone.

What is used of a toolbox for a template is how it has the text of one tool written
(`Toolbox.AgreesOn`). That is all there is to the argument; the rest reads off how an option is made.
-/

namespace Triage

/-- Two toolboxes have the text of a template's tool written in the same way. -/
def Toolbox.AgreesOn (t : ActionTemplate) (box box' : Toolbox) : Prop :=
  ∀ name ∈ t.tool?, ∀ tool ∈ Tool.ofName? name, box tool = box' tool

namespace ActionOption

variable {box box' : Toolbox} {fields : Record} {t : ActionTemplate}

/-- The tool of a template comes to nothing. -/
inductive Fails (box : Toolbox) (fields : Record) (t : ActionTemplate) : ToolFault → Prop where
  /-- There is no tool of the name. -/
  | unknown {name : String} :
      t.tool? = some name → Tool.ofName? name = none → Fails box fields t (.unknown name)
  /-- The parameters cannot be resolved. -/
  | unresolved {name : String} {tool : Tool} {fault : ToolFault} :
      t.tool? = some name → Tool.ofName? name = some tool →
      tool.resolve t.parameters fields = .error fault → Fails box fields t fault
  /-- The text is not written. -/
  | unwritten {name : String} {tool : Tool} {parameters : Record} {fault : ToolFault} :
      t.tool? = some name → Tool.ofName? name = some tool →
      tool.resolve t.parameters fields = .ok parameters → box tool parameters = .error fault →
      Fails box fields t fault

theorem fails_iff {fault : ToolFault} :
    Fails box fields t fault ↔
      ∃ name, t.tool? = some name ∧ box.render name t.parameters fields = .error fault := by
  constructor
  · intro h
    cases h with
    | unknown hname htool => exact ⟨_, hname, by rw [Toolbox.render, htool]⟩
    | unresolved hname htool hresolve =>
        exact ⟨_, hname, by rw [Toolbox.render, htool]; exact bind_eq_error_iff.mpr (.inl hresolve)⟩
    | unwritten hname htool hresolve hbox =>
        refine ⟨_, hname, ?_⟩
        rw [Toolbox.render, htool]
        exact bind_eq_error_iff.mpr (.inr ⟨_, hresolve, hbox⟩)
  · rintro ⟨name, hname, h⟩
    rw [Toolbox.render] at h
    cases htool : Tool.ofName? name with
    | none =>
        rw [htool] at h
        cases h
        exact .unknown hname htool
    | some tool =>
        rw [htool] at h
        rcases bind_eq_error_iff.mp h with hresolve | ⟨parameters, hresolve, hbox⟩
        · exact .unresolved hname htool hresolve
        · exact .unwritten hname htool hresolve hbox

/-- **An option has failed exactly where its tool came to nothing.** -/
theorem failed_ofTemplate_iff :
    (ofTemplate box fields t).failed = true ↔ ∃ fault, Fails box fields t fault := by
  simp only [fails_iff]
  rw [ofTemplate]
  cases t.tool? with
  | none => simp
  | some name =>
      dsimp only
      cases hrender : box.render name t.parameters fields with
      | error fault => simp [hrender]
      | ok rendering => simp [hrender]

theorem isError_errorMark_append (s : String) : isError (errorMark ++ s) = true := by
  rw [isError, Text.startsWith, String.toList_append, List.isPrefixOf_iff_prefix]
  exact List.prefix_append _ _

/-- An option that has failed says so, and there is nothing in it to execute. -/
theorem isError_of_failed (h : (ofTemplate box fields t).failed = true) :
    isError (ofTemplate box fields t).action = true ∧
      (ofTemplate box fields t).parameters = [] := by
  obtain ⟨fault, hfault⟩ := failed_ofTemplate_iff.mp h
  obtain ⟨name, hname, hrender⟩ := fails_iff.mp hfault
  rw [ofTemplate, hname]
  dsimp only
  rw [hrender]
  exact ⟨isError_errorMark_append _, rfl⟩

/-- **Of a toolbox, an option depends on its own tool only.** -/
theorem ofTemplate_congr (h : Toolbox.AgreesOn t box box') (fields : Record) :
    ofTemplate box fields t = ofTemplate box' fields t := by
  rw [ofTemplate, ofTemplate]
  cases hname : t.tool? with
  | none => rfl
  | some name =>
      have hrender :
          box.render name t.parameters fields = box'.render name t.parameters fields := by
        rw [Toolbox.render, Toolbox.render]
        cases htool : Tool.ofName? name with
        | none => rfl
        | some tool => exact congrArg _ (h name hname tool htool)
      dsimp only
      rw [hrender]

end ActionOption

namespace Report

variable {box box' : Toolbox} {fields : Record} {policy : Option Policy} {t : ActionTemplate}
  {i : Nat}

/-- The templates of a policy; without a policy there are none. -/
def templates (policy : Option Policy) : List ActionTemplate :=
  (policy.map Policy.actionTemplates).getD []

theorem optionsFor_eq (box : Toolbox) (policy : Option Policy) (fields : Record) :
    optionsFor box policy fields = (templates policy).map (ActionOption.ofTemplate box fields) := by
  cases policy with
  | none => rfl
  | some p => rfl

theorem getElem?_optionsFor (h : (templates policy)[i]? = some t) :
    (optionsFor box policy fields)[i]? = some (ActionOption.ofTemplate box fields t) := by
  rw [optionsFor_eq, List.getElem?_map, h]
  rfl

/-- A report in which every template has an option of its own, whatever becomes of the others. -/
structure IsIsolated (box : Toolbox) (alert : Alert) (policy : Option Policy) (r : Report) :
    Prop where
  /-- There are as many options as templates. -/
  length : r.options.length = (templates policy).length
  /-- The option of a template, which stands at its place, is the only one in any report on an alert
  with the same fields by a policy with this template only. The toolbox may be another one then, if
  it has the text of the template's tool written in the same way. -/
  alone : ∀ (i : Nat) (t : ActionTemplate), (templates policy)[i]? = some t →
    ∀ (box' : Toolbox) (now : String) (alert' : Alert) (decision : Decision) (policy' : Policy)
      (originalText modelUsed : Option String),
      Toolbox.AgreesOn t box box' → alert'.fields = alert.fields → policy'.actionTemplates = [t] →
      r.options[i]?.toList =
        (make box' now alert' decision (some policy') originalText modelUsed).options
  /-- An option has failed exactly where the tool of its template came to nothing. -/
  failed_iff : ∀ (i : Nat) (t : ActionTemplate) (o : ActionOption),
    (templates policy)[i]? = some t → r.options[i]? = some o →
    (o.failed = true ↔ ∃ fault, ActionOption.Fails box alert.fields t fault)
  /-- One that has failed says so, and there is nothing in it to execute. -/
  marked : ∀ o ∈ r.options, o.failed = true →
    ActionOption.isError o.action = true ∧ o.parameters = []
  /-- The action of the report is that of the first option. -/
  action : r.action = r.options.head?.map ActionOption.action
  /-- The options that may be approved are those that have not failed, in order. -/
  approvable : r.approvable = r.options.filter fun o => !o.failed

/-- **A report is always made, and no option in it depends on another one.** -/
theorem isIsolated_of_report (box : Toolbox) (now : String) (alert : Alert) (decision : Decision)
    (policy : Option Policy) (originalText modelUsed : Option String) (s : Session) :
    ∃ (r : Report) (s' : Session),
      (Analysis.report box now alert decision policy originalText modelUsed).inSession s =
        (.ok r, s') ∧
      IsIsolated box alert policy r := by
  refine ⟨make box now alert decision policy originalText modelUsed, _, rfl, ?_⟩
  exact
    { length := by
        show (optionsFor box policy alert.fields).length = _
        rw [optionsFor_eq, List.length_map]
      alone := by
        intro i t ht box' now' alert' decision' policy' originalText' modelUsed' hbox hfields hpolicy
        show (optionsFor box policy alert.fields)[i]?.toList =
          optionsFor box' (some policy') alert'.fields
        rw [getElem?_optionsFor ht, optionsFor, hpolicy, hfields,
          ActionOption.ofTemplate_congr hbox]
        rfl
      failed_iff := by
        intro i t o ht ho
        rw [← Option.some.inj ((getElem?_optionsFor ht).symm.trans ho)]
        exact ActionOption.failed_ofTemplate_iff
      marked := by
        intro o ho hfailed
        have ho' : o ∈ optionsFor box policy alert.fields := ho
        rw [optionsFor_eq] at ho'
        obtain ⟨t, -, rfl⟩ := List.mem_map.mp ho'
        exact ActionOption.isError_of_failed hfailed
      action := rfl
      approvable := rfl }

end Report
end Triage
