import Mathlib.Data.List.DropRight
import Triage.Proofs.Resolution

/-!
# What a tool writes can be written again

An approver sees a text, and the tool is executed later, from the parameters that came with the
text. So the parameters must come to that text again. Three of the tools change a parameter while
they write (`Tool.own?`): two trim their command, one adds the block that it has made. Writing
again from what they return changes nothing any more, as a trimmed text is left as it is
(`Text.trim_trim`) and the block is made from other parameters than itself
(`Tool.autoscalerBlock_set`). The rest is carried over (`Tool.isReproducible`).
-/

namespace Triage

namespace Text

theorem trimChars_trimChars (s : List Char) : trimChars (trimChars s) = trimChars s := by
  have hfront : (trimChars s).dropWhile isSpace = trimChars s := by
    -- what is left after the front is trimmed begins with no space, and so does every front of it
    rw [List.dropWhile_eq_self_iff]
    intro hpos
    have hfront : trimChars s <+: s.dropWhile isSpace := List.rdropWhile_prefix _ _
    rw [hfront.getElem]
    exact List.dropWhile_get_zero_not isSpace s (Nat.lt_of_lt_of_le hpos hfront.length_le)
  calc trimChars (trimChars s)
      = dropEndWhile isSpace ((trimChars s).dropWhile isSpace) := rfl
    _ = dropEndWhile isSpace (trimChars s) := by rw [hfront]
    _ = trimChars s := List.rdropWhile_idempotent isSpace _

theorem trim_trim (s : String) : trim (trim s) = trim s := by
  unfold trim
  rw [String.toList_ofList, trimChars_trimChars]

end Text

theorem Record.set_set (r : Record) (name : String) (v w : Json) :
    (r.set name v).set name w = r.set name w := by
  induction r with
  | nil => simp [set]
  | cons field rest ih =>
      by_cases h : field.1 = name
      · simp [set, h]
      · simp [set, h, ih]

namespace Tool

variable {tool : Tool} {p template fields : Record} {rendering : Rendering} {name other : String}
  {v : Json}

/-- The parameter that a tool writes itself: its command without space around it, or the block that
it adds. -/
def own? : Tool → Option String
  | gcloudCommand => some "command"
  | gcloudScaleUp => some "gcloud_command"
  | terragruntAutoscalerDiff => some "autoscaler_block"
  | machineTypeDiff | githubPrAppend => none

/-- The parameter with the command that a tool shows. -/
def command? : Tool → Option String
  | gcloudCommand => some "command"
  | gcloudScaleUp => some "gcloud_command"
  | terragruntAutoscalerDiff | machineTypeDiff | githubPrAppend => none

/-- The rendering that a tool makes of its parameters can be made again from those that come with
it. -/
structure IsReproducible (tool : Tool) (p : Record) (rendering : Rendering) : Prop where
  /-- No parameter is lost. -/
  names : ∀ name ∈ p.names, name ∈ rendering.parameters.names
  /-- No parameter differs but the one that the tool writes itself. -/
  kept : ∀ name, some name ≠ tool.own? → rendering.parameters.get? name = p.get? name
  /-- Nothing is missing that the tool requires. -/
  complete : tool.spec.missing rendering.parameters = []
  /-- The tool writes the same text again, and returns the same parameters. -/
  again : tool.render rendering.parameters = .ok rendering
  /-- A command that is shown is the one to be run. -/
  shown : ∀ name, tool.command? = some name →
    rendering.parameters.get? name = some (.string rendering.text)

theorem say_set_of_ne (h : other ≠ name) : say (p.set name v) other = say p other := by
  rw [say, say, Record.getD_set, if_neg h]

theorem command_set (p : Record) (name : String) :
    command (p.set name (.string (command p name))) name = command p name := by
  have hsay : say (p.set name (.string (command p name))) name = command p name := by
    rw [say, Record.getD_set, if_pos rfl]
    rfl
  rw [command, hsay, command, Text.trim_trim]

theorem autoscalerBlock_set (p : Record) (v : Json) :
    autoscalerBlock (p.set "autoscaler_block" v) = autoscalerBlock p := by
  unfold autoscalerBlock
  simp only [say_set_of_ne, ne_eq, String.reduceEq, not_false_eq_true]

theorem autoscalerDiff_set (p : Record) (v : Json) (block : String) :
    autoscalerDiff (p.set "autoscaler_block" v) block = autoscalerDiff p block := by
  unfold autoscalerDiff servicePath
  simp only [say_set_of_ne, ne_eq, String.reduceEq, not_false_eq_true]

theorem missing_set {spec : ToolSpec} (h : spec.missing p = [])
    (hv : name ∈ spec.required → ToolSpec.isMissing v = false) :
    spec.missing (p.set name v) = [] := by
  rw [ToolSpec.missing, List.filter_eq_nil_iff] at h ⊢
  intro other hrequired
  rw [Record.getD_set]
  split
  · rename_i heq
    rw [hv (heq ▸ hrequired)]
    simp
  · exact h other hrequired

theorem mem_names_set (h : other ∈ p.names) : other ∈ (p.set name v).names := by
  rw [Record.mem_names_iff, Record.get?_set]
  split
  · simp
  · exact Record.mem_names_iff.mp h

/-- A tool that writes one parameter comes to the same again if it leaves that one as it is. -/
theorem isReproducible_set {text : String} (hcomplete : tool.spec.missing p = [])
    (hown : tool.own? = some name) (hv : name ∈ tool.spec.required → ToolSpec.isMissing v = false)
    (hshown : ∀ other, tool.command? = some other → other = name ∧ v = .string text)
    (hagain : tool.render (p.set name v) = .ok ⟨text, (p.set name v).set name v⟩) :
    IsReproducible tool p ⟨text, p.set name v⟩ where
  names := fun _ hmem => mem_names_set hmem
  kept := by
    intro other hother
    have hne : other ≠ name := fun heq => hother (heq ▸ hown.symm)
    exact (Record.get?_set p name v other).trans (if_neg hne)
  complete := missing_set hcomplete hv
  again := by
    rw [Record.set_set] at hagain
    exact hagain
  shown := by
    intro other hother
    obtain ⟨rfl, rfl⟩ := hshown other hother
    exact (Record.get?_set p other _ other).trans (if_pos rfl)

theorem isReproducible_self {text : String} (hcomplete : tool.spec.missing p = [])
    (hcommand : tool.command? = none) (hagain : tool.render p = .ok ⟨text, p⟩) :
    IsReproducible tool p ⟨text, p⟩ where
  names := fun _ hmem => hmem
  kept := fun _ _ => rfl
  complete := hcomplete
  again := hagain
  shown := by
    intro other hother
    rw [hcommand] at hother
    cases hother

theorem isMissing_string {s : String} (h : s ≠ "") : ToolSpec.isMissing (.string s) = false := by
  rw [Bool.eq_false_iff, ne_eq, ToolSpec.isMissing_iff]
  simp [h]

/-- **What a tool writes for the parameters that it got, it writes again for those that it
returns.** -/
theorem isReproducible (hp : tool.resolve template fields = .ok p)
    (hrendering : tool.render p = .ok rendering) : IsReproducible tool p rendering := by
  have hcomplete : tool.spec.missing p = [] := (ToolSpec.resolve_eq_ok_iff.mp hp).1
  cases tool with
  | gcloudCommand =>
      rw [render] at hrendering
      split at hrendering
      · rename_i hstart
        obtain rfl := Except.ok.inj hrendering
        have hne : command p "command" ≠ "" := by
          intro hempty
          rw [hempty] at hstart
          cases hstart
        refine isReproducible_set hcomplete rfl (fun _ => isMissing_string hne) ?_ ?_
        · rintro other ⟨⟩
          exact ⟨rfl, rfl⟩
        · rw [render, command_set]
          exact if_pos hstart
      · cases hrendering
  | gcloudScaleUp =>
      rw [render] at hrendering
      split at hrendering
      · cases hrendering
      · rename_i hne
        obtain rfl := Except.ok.inj hrendering
        refine isReproducible_set hcomplete rfl (fun _ => isMissing_string hne) ?_ ?_
        · rintro other ⟨⟩
          exact ⟨rfl, rfl⟩
        · rw [render, command_set]
          exact if_neg hne
  | terragruntAutoscalerDiff =>
      obtain rfl := Except.ok.inj hrendering
      refine isReproducible_set hcomplete rfl (fun hrequired => ?_) (fun _ hother => ?_) ?_
      · exact absurd hrequired (by decide)
      · cases hother
      · rw [render, autoscalerBlock_set, autoscalerDiff_set]
  | machineTypeDiff =>
      obtain rfl := Except.ok.inj hrendering
      exact isReproducible_self hcomplete rfl rfl
  | githubPrAppend =>
      obtain rfl := Except.ok.inj hrendering
      exact isReproducible_self hcomplete rfl rfl

/-- A command with space around it that the alert completes, beside a parameter that nobody asks
for. -/
def padded : Record := [
  ("gcloud_command", .string "  gcloud run deploy \x7bservice_name\x7d\n"), ("replicas", .int 3)]

/-- A block of the template's own, in the place where the tool puts the one that it makes. -/
def occupied : Record := [
  ("autoscaler_block", .string "autoscaler \x7b\x7d"), ("schedule_name", .string "peak"),
  ("schedule_expression", .string "0 8 * * *"), ("duration_sec", .int 3600),
  ("min_replicas", .float .one)]

/-- An alert that names a service. -/
def naming : Record := [("service_name", .string "shop")]

/-- A trimmed command is not trimmed any further, and the block that a tool makes takes the place of
another one for good. -/
theorem isReproducible_padded_occupied :
    (∃ p rendering, gcloudScaleUp.resolve padded naming = .ok p ∧
      gcloudScaleUp.render p = .ok rendering ∧ IsReproducible gcloudScaleUp p rendering) ∧
    ∃ p rendering, terragruntAutoscalerDiff.resolve occupied naming = .ok p ∧
      terragruntAutoscalerDiff.render p = .ok rendering ∧
      IsReproducible terragruntAutoscalerDiff p rendering := by
  constructor
  · have hresolve : gcloudScaleUp.resolve padded naming = .ok _ := rfl
    exact ⟨_, _, hresolve, rfl, isReproducible hresolve rfl⟩
  · have hresolve : terragruntAutoscalerDiff.resolve occupied naming = .ok _ := rfl
    exact ⟨_, _, hresolve, rfl, isReproducible hresolve rfl⟩

end Tool

end Triage
