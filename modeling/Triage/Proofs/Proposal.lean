import Triage.Proofs.Mark
import Triage.Proofs.Words

/-!
# What is proposed as a `gcloud` command

A command comes from the template, with words of the alert filled in, or from the alert
altogether. Of all that, the tool looks at the first six characters. An option of the tool has
therefore not failed exactly where its command, without space around it, begins with these
(`ActionOption.ProposesGcloud.failed_iff`). The program that would be run is the first word of the
command, and that word may go on: `gcloud-purge` passes as well. It is `gcloud` exactly where the
six characters are all there is, or space follows (`ActionOption.ProposesGcloud.program_iff`).
-/

namespace Triage

open Text

namespace ActionOption

/-- The program that a command may name. -/
def program : String := "gcloud"

/-- An option of the `gcloud` tool, with what is known of the command that it proposes. -/
structure ProposesGcloud (fields : Record) (t : ActionTemplate) (o : ActionOption) : Prop where
  /-- It has not failed exactly where the parameters can be resolved and the command begins with the
  name of the program. -/
  failed_iff : o.failed = false ↔ ∃ p, Tool.gcloudCommand.resolve t.parameters fields = .ok p ∧
    startsWith (Tool.command p "command") program = true
  /-- Its action is then the command. -/
  action : o.failed = false → ∃ p, Tool.gcloudCommand.resolve t.parameters fields = .ok p ∧
    o.action = Tool.command p "command"
  /-- The first word of the action begins with the name of the program. -/
  front : o.failed = false → ∃ word, (words o.action).head? = some word ∧
    startsWith word program = true
  /-- It is that name exactly where the action ends with it or goes on with space. -/
  program_iff : o.failed = false → ((words o.action).head? = some program ↔
    o.action = program ∨
      ∃ x tail, o.action.toList = program.toList ++ x :: tail ∧ isSpace x = true)

/-! ## The option of a tool -/

section Option

variable {box : Toolbox} {fields : Record} {t : ActionTemplate} {tool : Tool}

theorem ofTemplate_of_render {rendering : Rendering} (ht : t.tool? = some tool.name)
    (h : box.render tool.name t.parameters fields = .ok rendering) :
    ofTemplate box fields t =
      ⟨t.label, t.description, rendering.text, tool.name, rendering.parameters, false⟩ := by
  rw [ofTemplate, ht]
  dsimp only
  rw [h]

/-- An option of a tool has not failed exactly where the tool's parameters are resolved and its text
is written. -/
theorem not_failed_iff (ht : t.tool? = some tool.name) :
    (ofTemplate box fields t).failed = false ↔
      ∃ p rendering, tool.resolve t.parameters fields = .ok p ∧ box tool p = .ok rendering := by
  have hrender : (ofTemplate box fields t).failed = false ↔
      ∃ rendering, box.render tool.name t.parameters fields = .ok rendering := by
    rw [ofTemplate, ht]
    dsimp only
    cases box.render tool.name t.parameters fields with
    | error fault => simp
    | ok rendering => simp
  rw [hrender]
  constructor
  · rintro ⟨rendering, h⟩
    obtain ⟨other, p, htool, hp, hbox⟩ := render_eq_ok_iff.mp h
    obtain rfl := Option.some.inj ((Tool.ofName?_name tool).symm.trans htool)
    exact ⟨p, rendering, hp, hbox⟩
  · rintro ⟨p, rendering, hp, hbox⟩
    exact ⟨rendering, render_eq_ok_iff.mpr ⟨tool, p, Tool.ofName?_name tool, hp, hbox⟩⟩

end Option

/-! ## Its program -/

/-- The first word of a text that begins with the name of the program. -/
theorem head?_words_of_program {s : String} (h : startsWith s program = true) :
    (∃ word, (words s).head? = some word ∧ startsWith word program = true) ∧
      ((words s).head? = some program ↔ s = program ∨
        ∃ x tail, s.toList = program.toList ++ x :: tail ∧ isSpace x = true) := by
  obtain ⟨rest, hrest⟩ := startsWith_iff.mp h
  have hne : program ≠ "" := by decide
  have hsolid : isSolid program = true := by decide
  constructor
  · refine ⟨_, head?_words_of_front hne hsolid hrest.symm, ?_⟩
    rw [startsWith_iff, String.toList_ofList]
    exact List.prefix_append _ _
  · rw [head?_words_eq_front_iff hne hsolid hrest.symm, ← String.toList_inj, ← hrest,
      List.append_right_eq_self]
    simp only [List.append_cancel_left_eq]

theorem render_gcloudCommand_eq_ok_iff {p : Record} {rendering : Rendering} :
    Tool.gcloudCommand.render p = .ok rendering ↔
      startsWith (Tool.command p "command") program = true ∧
        rendering = ⟨Tool.command p "command",
          p.set "command" (.string (Tool.command p "command"))⟩ := by
  rw [Tool.render]
  split
  · rename_i hstart
    rw [Except.ok.injEq, eq_comm]
    exact (and_iff_right hstart).symm
  · rename_i hstart
    simp only [reduceCtorEq, false_iff]
    exact fun h => hstart h.1

/-- **An option of the `gcloud` tool proposes a command that begins with the name of the program**,
and proposes that program exactly where the name ends there. -/
theorem proposesGcloud {t : ActionTemplate} (ht : t.tool? = some Tool.gcloudCommand.name)
    (fields : Record) : ProposesGcloud fields t (ofTemplate .builtin fields t) := by
  have hmade : (ofTemplate .builtin fields t).failed = false →
      ∃ p, Tool.gcloudCommand.resolve t.parameters fields = .ok p ∧
        startsWith (Tool.command p "command") program = true ∧
        (ofTemplate .builtin fields t).action = Tool.command p "command" := by
    intro hfailed
    obtain ⟨p, rendering, hp, hrendering⟩ := (not_failed_iff ht).mp hfailed
    obtain ⟨hstart, rfl⟩ := render_gcloudCommand_eq_ok_iff.mp hrendering
    have hrender := render_eq_ok_iff.mpr ⟨_, p, Tool.ofName?_name .gcloudCommand, hp, hrendering⟩
    exact ⟨p, hp, hstart, by rw [ofTemplate_of_render ht hrender]⟩
  constructor
  case failed_iff =>
    constructor
    · intro hfailed
      obtain ⟨p, hp, hstart, -⟩ := hmade hfailed
      exact ⟨p, hp, hstart⟩
    · rintro ⟨p, hp, hstart⟩
      exact (not_failed_iff ht).mpr
        ⟨p, _, hp, render_gcloudCommand_eq_ok_iff.mpr ⟨hstart, rfl⟩⟩
  case action =>
    intro hfailed
    obtain ⟨p, hp, -, haction⟩ := hmade hfailed
    exact ⟨p, hp, haction⟩
  case front =>
    intro hfailed
    obtain ⟨p, -, hstart, haction⟩ := hmade hfailed
    rw [haction]
    exact (head?_words_of_program hstart).1
  case program_iff =>
    intro hfailed
    obtain ⟨p, -, hstart, haction⟩ := hmade hfailed
    rw [haction]
    exact (head?_words_of_program hstart).2

/-- A template that has the tool run the words of an alert. -/
def obeying : ActionTemplate :=
  ⟨"Run", none, "MCP:gcloud_command", [("command", .string " \x7buser_intent\x7d ")]⟩

/-- Words that go on with another program behind the six characters. -/
def purging : Record := [("user_intent", .string "gcloud-purge projects delete shop")]

theorem proposesGcloud_obeying : obeying.tool? = some Tool.gcloudCommand.name ∧
    ProposesGcloud purging obeying (ofTemplate .builtin purging obeying) :=
  ⟨by decide, proposesGcloud (by decide) purging⟩

/-- **The tool proposes another program than `gcloud`.** -/
theorem program_purging : obeying.tool? = some Tool.gcloudCommand.name ∧
    (ofTemplate .builtin purging obeying).failed = false ∧
    (words (ofTemplate .builtin purging obeying).action).head? = some "gcloud-purge" := by
  decide +kernel

end ActionOption
end Triage
