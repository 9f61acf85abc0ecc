import Triage.Proofs.Isolation

/-!
# The mark of a failure

Whether an option has failed is said twice: by its flag, and by the mark in front of its action. A
failed option always bears the mark. The other way round it depends on what the texts are: a template
without a tool may come to a text with the mark in front, and so may a tool (`ActionOption.Feigns`).
Then the option looks failed, and may be approved all the same. The two say the same of every option
of a report exactly where no template feigns (`Report.isMarked_of_report`).

Of the tools that write their own text, one alone can feign: what the others write begins with
characters of its own (`Tool.isError_render_iff`).
-/

namespace Triage

open ActionOption

namespace Text

variable {c : Char} {s t : String}

theorem head?_append (h : s.toList.head? = some c) (t : String) :
    (s ++ t).toList.head? = some c := by
  rw [String.toList_append, List.head?_append, h]
  rfl

theorem head?_join (h : s.toList.head? = some c) (separator : String) (rest : List String) :
    (join separator (s :: rest)).toList.head? = some c := by
  cases rest with
  | nil => rwa [join, String.intercalate_singleton]
  | cons second rest =>
      rw [join, String.intercalate_cons_cons]
      exact head?_append (head?_append h _) _

theorem head?_of_startsWith (h : startsWith s t = true) (ht : t.toList.head? = some c) :
    s.toList.head? = some c := by
  obtain ⟨rest, hrest⟩ := startsWith_iff.mp h
  rw [← hrest, List.head?_append, ht]
  rfl

end Text

namespace ActionOption

variable {box : Toolbox} {fields : Record} {t : ActionTemplate} {s : String}

/-- A text that begins with another character does not bear the mark. -/
theorem isError_eq_false {c : Char} (h : s.toList.head? = some c) (hc : c ≠ '[') :
    isError s = false := by
  refine Bool.eq_false_iff.mpr fun hmark => hc ?_
  have hopen : s.toList.head? = some '[' := Text.head?_of_startsWith hmark (by decide)
  exact Option.some.inj (h.symm.trans hopen)

/-- An option that has not failed bears the mark. -/
inductive Feigns (box : Toolbox) (fields : Record) (t : ActionTemplate) : Prop where
  /-- There is no tool, and the text of the template comes to one with the mark in front. -/
  | plain : t.tool? = none → isError (Template.render t.template fields) = true →
      Feigns box fields t
  /-- The tool writes a text with the mark in front. -/
  | written {name : String} {tool : Tool} {parameters : Record} {rendering : Rendering} :
      t.tool? = some name → Tool.ofName? name = some tool →
      tool.resolve t.parameters fields = .ok parameters → box tool parameters = .ok rendering →
      isError rendering.text = true → Feigns box fields t

theorem render_eq_ok_iff {name : String} {rendering : Rendering} :
    box.render name t.parameters fields = .ok rendering ↔
      ∃ tool parameters, Tool.ofName? name = some tool ∧
        tool.resolve t.parameters fields = .ok parameters ∧ box tool parameters = .ok rendering := by
  rw [Toolbox.render]
  cases Tool.ofName? name with
  | none => simp
  | some tool =>
      dsimp only
      simp only [Option.some.injEq, exists_eq_left', exists_and_left]
      exact bind_eq_ok_iff

/-- **A template feigns exactly where its option bears the mark without having failed.** -/
theorem feigns_iff : Feigns box fields t ↔
    (ofTemplate box fields t).failed = false ∧
      isError (ofTemplate box fields t).action = true := by
  rw [ofTemplate]
  constructor
  · intro h
    cases h with
    | plain hnone hmark =>
        rw [hnone]
        exact ⟨rfl, hmark⟩
    | written hname htool hresolve hbox hmark =>
        have hrender := render_eq_ok_iff.mpr ⟨_, _, htool, hresolve, hbox⟩
        rw [hname]
        dsimp only
        rw [hrender]
        exact ⟨rfl, hmark⟩
  · cases hname : t.tool? with
    | none => exact fun h => .plain hname h.2
    | some name =>
        dsimp only
        cases hrender : box.render name t.parameters fields with
        | error fault => simp
        | ok rendering =>
            obtain ⟨tool, parameters, htool, hresolve, hbox⟩ := render_eq_ok_iff.mp hrender
            exact fun h => .written hname htool hresolve hbox h.2

end ActionOption

namespace Tool

variable {tool : Tool} {p : Record}

theorem head?_autoscalerDiff (p : Record) (block : String) :
    (autoscalerDiff p block).toList.head? = some '-' :=
  Text.head?_join (Text.head?_append (by decide) _) _ _

theorem head?_machineDiff (p : Record) : (machineDiff p).toList.head? = some 'd' :=
  Text.head?_join (Text.head?_append (Text.head?_append (Text.head?_append (by decide) _) _) _) _ _

theorem head?_pullRequest (p : Record) : (pullRequest p).toList.head? = some 'O' := by
  unfold pullRequest
  repeat refine Text.head?_append ?_ _
  decide

theorem ofName?_name (tool : Tool) : ofName? tool.name = some tool := by cases tool <;> decide

theorem isError_of_head {c : Char} {text : String} {q : Record} {rendering : Rendering}
    (h : (.ok ⟨text, q⟩ : Except ToolFault Rendering) = .ok rendering)
    (hhead : text.toList.head? = some c) (hc : c ≠ '[') : isError rendering.text = false := by
  obtain rfl := Except.ok.inj h
  exact isError_eq_false hhead hc

/-- What a tool writes of its own begins as no failure does. -/
theorem isError_of_render {rendering : Rendering} (hne : tool ≠ .gcloudScaleUp)
    (h : tool.render p = .ok rendering) : isError rendering.text = false := by
  cases tool with
  | gcloudCommand =>
      rw [render] at h
      split at h
      · rename_i hstart
        exact isError_of_head h (Text.head?_of_startsWith (c := 'g') hstart (by decide)) (by decide)
      · cases h
  | gcloudScaleUp => exact absurd rfl hne
  | terragruntAutoscalerDiff => exact isError_of_head h (head?_autoscalerDiff p _) (by decide)
  | machineTypeDiff => exact isError_of_head h (head?_machineDiff p) (by decide)
  | githubPrAppend => exact isError_of_head h (head?_pullRequest p) (by decide)

/-- **Of the tools, one alone writes texts with the mark of a failure in front**: it shows its
command as it is. -/
theorem isError_render_iff :
    (∃ rendering, tool.render p = .ok rendering ∧ isError rendering.text = true) ↔
      tool = .gcloudScaleUp ∧ isError (command p "gcloud_command") = true := by
  constructor
  · rintro ⟨rendering, hrender, hmark⟩
    by_cases htool : tool = .gcloudScaleUp
    · subst htool
      rw [render] at hrender
      split at hrender
      · cases hrender
      · obtain rfl := Except.ok.inj hrender
        exact ⟨rfl, hmark⟩
    · rw [isError_of_render htool hrender] at hmark
      cases hmark
  · rintro ⟨rfl, hmark⟩
    have hne : command p "gcloud_command" ≠ "" := by
      intro hempty
      rw [hempty] at hmark
      cases hmark
    have hrender : gcloudScaleUp.render p = .ok ⟨command p "gcloud_command",
        p.set "gcloud_command" (.string (command p "gcloud_command"))⟩ := by
      rw [render, if_neg hne]
    exact ⟨_, hrender, hmark⟩

end Tool

namespace Report

variable {box : Toolbox} {fields : Record} {policy : Option Policy} {t : ActionTemplate}
  {o : ActionOption}

theorem mem_optionsFor : o ∈ optionsFor box policy fields ↔
    ∃ t ∈ templates policy, ofTemplate box fields t = o := by
  rw [optionsFor_eq, List.mem_map]

/-- A report whose options that have failed bear the mark, and where it is known which others do. -/
structure IsMarked (box : Toolbox) (alert : Alert) (policy : Option Policy) (r : Report) : Prop where
  /-- An option that has failed bears the mark. -/
  marked : ∀ o ∈ r.options, o.failed = true → isError o.action = true
  /-- Flag and mark say the same of all options exactly where no template feigns. -/
  agree_iff : (∀ o ∈ r.options, (o.failed = true ↔ isError o.action = true)) ↔
    ∀ t ∈ templates policy, ¬ Feigns box alert.fields t
  /-- Exactly then no option that may be approved bears the mark. -/
  approvable_iff : (∀ o ∈ r.approvable, isError o.action = false) ↔
    ∀ t ∈ templates policy, ¬ Feigns box alert.fields t
  /-- A tool that writes its own text feigns only where it shows a command as it is. -/
  builtin : ∀ (t : ActionTemplate) (tool : Tool), t.tool? = some tool.name →
    box tool = tool.render →
    (Feigns box alert.fields t ↔ tool = .gcloudScaleUp ∧ ∃ parameters,
      tool.resolve t.parameters alert.fields = .ok parameters ∧
        isError (Tool.command parameters "gcloud_command") = true)

theorem feigns_builtin_iff {tool : Tool} (ht : t.tool? = some tool.name)
    (hbox : box tool = tool.render) :
    Feigns box fields t ↔ tool = .gcloudScaleUp ∧ ∃ parameters,
      tool.resolve t.parameters fields = .ok parameters ∧
        isError (Tool.command parameters "gcloud_command") = true := by
  constructor
  · intro h
    cases h with
    | plain hnone _ => rw [ht] at hnone; cases hnone
    | written hname htool hresolve hwritten hmark =>
        obtain rfl := Option.some.inj (ht.symm.trans hname)
        obtain rfl := Option.some.inj ((Tool.ofName?_name tool).symm.trans htool)
        rw [hbox] at hwritten
        obtain ⟨htool', hcommand⟩ := Tool.isError_render_iff.mp ⟨_, hwritten, hmark⟩
        exact ⟨htool', _, hresolve, hcommand⟩
  · rintro ⟨htool, parameters, hresolve, hcommand⟩
    obtain ⟨rendering, hwritten, hmark⟩ := Tool.isError_render_iff.mpr ⟨htool, hcommand⟩
    exact .written ht (Tool.ofName?_name tool) hresolve (by rw [hbox, hwritten]) hmark

/-- **A report is always made, and its flags and its marks agree exactly where no template comes to a
text with the mark in front.** -/
theorem isMarked_of_report (box : Toolbox) (now : String) (alert : Alert) (decision : Decision)
    (policy : Option Policy) (originalText modelUsed : Option String) (s : Session) :
    ∃ (r : Report) (s' : Session),
      (Analysis.report box now alert decision policy originalText modelUsed).inSession s =
        (.ok r, s') ∧
      IsMarked box alert policy r := by
  refine ⟨make box now alert decision policy originalText modelUsed, _, rfl, ?_⟩
  have hfeigns : (∀ o ∈ optionsFor box policy alert.fields,
      ¬ (o.failed = false ∧ isError o.action = true)) ↔
        ∀ t ∈ templates policy, ¬ Feigns box alert.fields t := by
    simp only [mem_optionsFor, feigns_iff]
    constructor
    · exact fun h t ht => h _ ⟨t, ht, rfl⟩
    · rintro h o ⟨t, ht, rfl⟩
      exact h t ht
  have hmarked : ∀ o ∈ optionsFor box policy alert.fields,
      o.failed = true → isError o.action = true := by
    intro o ho hfailed
    obtain ⟨t, -, rfl⟩ := mem_optionsFor.mp ho
    exact (isError_of_failed hfailed).1
  exact
    { marked := hmarked
      agree_iff := by
        rw [← hfeigns]
        refine forall₂_congr fun o ho => ⟨?_, fun hnot => ⟨hmarked o ho, fun herror => ?_⟩⟩
        · rintro hiff ⟨hfailed, herror⟩
          rw [hiff.mpr herror] at hfailed
          cases hfailed
        · by_contra hfailed
          exact hnot ⟨Bool.eq_false_iff.mpr hfailed, herror⟩
      approvable_iff := by
        rw [← hfeigns]
        show (∀ o ∈ (optionsFor box policy alert.fields).filter fun o => !o.failed,
          isError o.action = false) ↔ _
        simp only [List.mem_filter, and_imp, not_and, Bool.not_eq_true', Bool.not_eq_true]
      builtin := fun t tool ht hbox => feigns_builtin_iff ht hbox }

/-- A policy that has a tool show the words of the alert. -/
def repeating : Json := .object [
  ("alert_type", .string "scale_up"),
  ("action_templates", .array [.object [
    ("template", .string "MCP:gcloud_scale_up"),
    ("parameters", .object [("gcloud_command", .string "\x7buser_intent\x7d")])]])]

/-- An alert whose words begin with the mark. -/
def quoting : Record := [
  ("alert_type", .string "scale_up"), ("project_id", .null), ("instance_name", .null),
  ("metric_labels", .object []), ("confidence", .float .one), ("missing_fields", .array []),
  ("parse_method", .string "policy"), ("user_intent", .string "[action-error] scale up")]

/-- The report on an alert that someone has to agree to. -/
def ofAlert (policy : Policy) (alert : Alert) : Report :=
  make .builtin "" alert ⟨.needsApproval, none, ""⟩ (some policy) none none

/-- **An option that may be approved bears the mark**: the words of the alert are shown as a
command. -/
theorem approvable_quoting :
    ∃ (policy : Policy) (alert : Alert), Policy.check repeating = .valid policy ∧
      Alert.check (.object quoting) = .valid alert ∧
      ∃ o ∈ (ofAlert policy alert).approvable, isError o.action = true := by
  have h : ((Policy.check repeating).toOption.bind fun policy =>
      (Alert.check (.object quoting)).toOption.map fun alert =>
        (ofAlert policy alert).approvable.any fun o => isError o.action) = some true := by
    decide +kernel
  obtain ⟨policy, hpolicy, h⟩ := Option.bind_eq_some_iff.mp h
  obtain ⟨alert, halert, h⟩ := Option.map_eq_some_iff.mp h
  exact ⟨policy, alert, Checked.toOption_eq_some_iff.mp hpolicy,
    Checked.toOption_eq_some_iff.mp halert, List.any_eq_true.mp h⟩

end Report

end Triage
