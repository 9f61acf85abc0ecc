import Triage.Report.Tool
import Triage.Proofs.Placeholder
import Triage.Proofs.Record

/-!
# How the parameters of a tool are resolved

A parameter can come from three places: from the template (`Gives`), from the field of the alert with
its name, or from the default of the tool (`ToolSpec.fallback`). `IsResolution` says which place
counts for which name, without a look at the two passes in which the parameters are put together, and
`isResolution_resolved` that the passes come to just that. A tool is then rendered with these
parameters, or it fails and lists the required names that are left null or empty
(`isResolution_of_resolve`).

A text with a placeholder that cannot be filled is as good as nothing. Its parameter is therefore not
always missing: the field of its own name stands in for it (`missing_iff_of_open`).
-/

namespace Triage

/-- A template gives a parameter a value: a text with all its placeholders filled, or any other value
than null as it is. -/
inductive Gives (template fields : Record) (name : String) : Json → Prop where
  | text {s : String} : template.get? name = some (.string s) → Template.IsFilled s fields →
      Gives template fields name (.string (Template.render s fields))
  | value {v : Json} : template.get? name = some v → v ≠ .null → (∀ s, v ≠ .string s) →
      Gives template fields name v

namespace ToolSpec

variable {spec : ToolSpec} {template fields r : Record} {name : String} {v : Json}

/-- What stands in for a value that the template does not give: the field of the name, else the
default. -/
def fallback (spec : ToolSpec) (fields : Record) (name : String) : Json :=
  if (fields.getD name).isNull then spec.defaults.getD name else fields.getD name

/-- The parameters of a tool for one alert, by where each of them comes from. -/
structure IsResolution (spec : ToolSpec) (template fields r : Record) : Prop where
  /-- No name is given twice. -/
  nodup : r.names.Nodup
  /-- There are values for the names of the template, the required and the defaulted ones. -/
  mem_names : ∀ name, name ∈ r.names ↔
    name ∈ template.names ∨ name ∈ spec.required ∨ name ∈ spec.defaults.names
  /-- What the template gives counts before all else. -/
  given : ∀ name v, Gives template fields name v → r.get? name = some v
  /-- A required or defaulted name that the template gives no value falls back. -/
  fallback : ∀ name, name ∈ spec.required ∨ name ∈ spec.defaults.names →
    (∀ v, ¬ Gives template fields name v) → r.get? name = some (spec.fallback fields name)
  /-- Any other name that the template gives no value is left null. -/
  void : ∀ name, name ∉ spec.required → name ∉ spec.defaults.names →
    (∀ v, ¬ Gives template fields name v) → r.getD name = .null

/-! ## What the template gives -/

theorem get?_given (h : template.names.Nodup) (fields : Record) (name : String) :
    (given template fields).get? name = (template.get? name).map (fillParameter fields) := by
  have hmap : given template fields =
      Record.overlay [] (template.map fun p => (p.1, fillParameter fields p.2)) := by
    rw [given, Record.overlay, List.foldl_map]
  have hnames : Record.names (template.map fun p => (p.1, fillParameter fields p.2)) =
      template.names := by
    rw [Record.names, List.map_map]
    rfl
  rw [hmap, Record.get?_overlay (hnames ▸ h), Record.get?_map, Record.get?_nil, Option.or_none]

theorem fillParameter_eq_of_ne (hv : ∀ s, v ≠ .string s) : fillParameter fields v = v := by
  cases v with
  | string s => exact absurd rfl (hv s)
  | _ => rfl

theorem fillParameter_of_isFilled {s : String} (h : Template.IsFilled s fields) :
    fillParameter fields (.string s) = .string (Template.render s fields) := by
  rw [fillParameter, if_pos (Template.unresolved_isEmpty_iff.mpr h)]

theorem fillParameter_of_not_isFilled {s : String} (h : ¬ Template.IsFilled s fields) :
    fillParameter fields (.string s) = .null := by
  rw [fillParameter, if_neg (mt Template.unresolved_isEmpty_iff.mp h)]

/-- The first pass gives what the template gives, and null where it gives no value. -/
theorem gives_iff (h : template.names.Nodup) :
    Gives template fields name v ↔ (given template fields).getD name = v ∧ v ≠ .null := by
  rw [Record.getD, get?_given h]
  constructor
  · intro hgives
    cases hgives with
    | text htext hfilled =>
        rw [htext, Option.map_some, fillParameter_of_isFilled hfilled]
        exact ⟨rfl, by simp⟩
    | value hvalue hnull hstring =>
        rw [hvalue, Option.map_some, fillParameter_eq_of_ne hstring]
        exact ⟨rfl, hnull⟩
  · rintro ⟨rfl, hnull⟩
    cases hget : template.get? name with
    | none => rw [hget] at hnull; exact absurd rfl hnull
    | some w =>
        rw [hget] at hnull
        rw [Option.map_some, Option.getD_some] at hnull ⊢
        by_cases hstring : ∀ s, w ≠ .string s
        · rw [fillParameter_eq_of_ne hstring] at hnull ⊢
          exact .value hget hnull hstring
        · obtain ⟨s, rfl⟩ := not_forall_not.mp hstring
          by_cases hfilled : Template.IsFilled s fields
          · rw [fillParameter_of_isFilled hfilled]
            exact .text hget hfilled
          · exact absurd (fillParameter_of_not_isFilled hfilled) hnull

theorem getD_given_of_not_gives (h : template.names.Nodup)
    (hnot : ∀ v, ¬ Gives template fields name v) : (given template fields).getD name = .null := by
  by_contra hne
  exact hnot _ ((gives_iff h).mpr ⟨rfl, hne⟩)

/-- A text with a placeholder whose field is null or absent is no value. -/
theorem not_gives_of_open {s : String} (hs : template.get? name = some (.string s))
    (hopen : ∃ p ∈ Template.placeholders s, fields.getD p = .null) (v : Json) :
    ¬ Gives template fields name v := by
  obtain ⟨p, hp, hnull⟩ := hopen
  intro hgives
  cases hgives with
  | text htext hfilled =>
      obtain rfl := Json.string.inj (Option.some.inj (hs.symm.trans htext))
      exact hfilled p hp hnull
  | value hvalue _ hstring => exact hstring s (Option.some.inj (hvalue.symm.trans hs))

/-! ## The two passes together -/

theorem firstGiven_cons (v : Json) (values : List Json) :
    firstGiven (v :: values) = if v.isNull then firstGiven values else v := by
  rw [firstGiven, List.find?_cons]
  cases v.isNull <;> rfl

theorem firstGiven_singleton (v : Json) : firstGiven [v] = v := by cases v <;> rfl

theorem parameter_eq (spec : ToolSpec) (given fields : Record) (name : String) :
    spec.parameter given fields name =
      if (given.getD name).isNull then spec.fallback fields name else given.getD name := by
  rw [parameter, firstGiven_cons, firstGiven_cons, firstGiven_singleton]
  rfl

theorem get?_resolved (spec : ToolSpec) (template fields : Record) (name : String) :
    (spec.resolved template fields).get? name =
      if name ∈ spec.fieldNames then some (spec.parameter (given template fields) fields name)
      else (given template fields).get? name :=
  Record.get?_foldl_set _ _ _ _

theorem mem_fieldNames :
    name ∈ spec.fieldNames ↔ name ∈ spec.required ∨ name ∈ spec.defaults.names :=
  List.mem_append

/-- **The parameters of a tool are what the template gives, completed from the fields and then from
the defaults.** -/
theorem isResolution_resolved (spec : ToolSpec) (h : template.names.Nodup) (fields : Record) :
    IsResolution spec template fields (spec.resolved template fields) where
  nodup := Record.nodup_foldl_set _ _ _ (Record.nodup_foldl_set _ _ _ Record.nodup_nil)
  mem_names := by
    intro name
    rw [Record.mem_names_iff, get?_resolved, ← mem_fieldNames]
    by_cases hname : name ∈ spec.fieldNames
    · simp [hname]
    · rw [if_neg hname, get?_given h, ne_eq, Option.map_eq_none_iff, ← ne_eq,
        ← Record.mem_names_iff]
      simp [hname]
  given := by
    intro name v hgives
    obtain ⟨hv, hnull⟩ := (gives_iff h).mp hgives
    have hfalse : v.isNull = false := Json.isNull_eq_false_iff.mpr hnull
    rw [get?_resolved]
    by_cases hname : name ∈ spec.fieldNames
    · rw [if_pos hname, parameter_eq, hv, hfalse]
      rfl
    · rw [if_neg hname]
      exact Record.get?_of_getD hv hfalse
  fallback := by
    intro name hname hnot
    have hgiven := getD_given_of_not_gives h hnot
    rw [get?_resolved, if_pos (mem_fieldNames.mpr hname), parameter_eq, hgiven]
    rfl
  void := by
    intro name hrequired hdefault hnot
    have hname : name ∉ spec.fieldNames := mt mem_fieldNames.mp (not_or.mpr ⟨hrequired, hdefault⟩)
    rw [Record.getD, get?_resolved, if_neg hname]
    exact getD_given_of_not_gives h hnot

/-! ## What is missing -/

theorem isMissing_iff : isMissing v = true ↔ v = .null ∨ v = .string "" := by
  unfold isMissing
  split <;> simp_all

theorem mem_missing : name ∈ spec.missing r ↔
    name ∈ spec.required ∧ (r.getD name = .null ∨ r.getD name = .string "") := by
  rw [missing, List.mem_filter, isMissing_iff]

theorem resolve_eq_ok_iff : spec.resolve template fields = .ok r ↔
    spec.missing r = [] ∧ r = spec.resolved template fields := by
  unfold resolve
  dsimp only
  split
  · rename_i hnone
    rw [Except.ok.injEq, eq_comm]
    exact ⟨fun hr => ⟨hr ▸ hnone, hr⟩, And.right⟩
  · rename_i hsome
    simp only [reduceCtorEq, false_iff]
    rintro ⟨hnone, rfl⟩
    exact hsome hnone

theorem resolve_eq_error_iff {fault : ToolFault} : spec.resolve template fields = .error fault ↔
    spec.missing (spec.resolved template fields) ≠ [] ∧
      fault = .missing spec.name (spec.missing (spec.resolved template fields)) := by
  unfold resolve
  dsimp only
  split
  · rename_i hnone
    simp [hnone]
  · rename_i hsome
    rw [Except.error.injEq, eq_comm]
    exact ⟨fun hfault => ⟨hsome, hfault⟩, And.right⟩

/-- **A tool gets the parameters of its template, of the fields and of the defaults, in this order,
and every required one has a value; or it fails, and the required names that are left null or empty
are listed in their order.** -/
theorem isResolution_of_resolve (spec : ToolSpec) (h : template.names.Nodup) (fields : Record) :
    (∀ r, spec.resolve template fields = .ok r →
      IsResolution spec template fields r ∧
        ∀ name ∈ spec.required, r.getD name ≠ .null ∧ r.getD name ≠ .string "") ∧
    ∀ fault, spec.resolve template fields = .error fault →
      ∃ r, IsResolution spec template fields r ∧
        spec.missing r ≠ [] ∧ fault = .missing spec.name (spec.missing r) := by
  constructor
  · intro r hr
    obtain ⟨hnone, rfl⟩ := resolve_eq_ok_iff.mp hr
    refine ⟨isResolution_resolved spec h fields, fun name hname => not_or.mp fun hempty => ?_⟩
    have hmem := mem_missing.mpr ⟨hname, hempty⟩
    rw [hnone] at hmem
    cases hmem
  · intro fault hfault
    exact ⟨_, isResolution_resolved spec h fields, resolve_eq_error_iff.mp hfault⟩

/-- A template that gives one parameter from the fields, leaves one null, and gives one that nobody
asks for. -/
def partly : Record := [
  ("service_name", .string "\x7bname\x7d-web"), ("schedule_name", .null), ("duration_sec", .int 0),
  ("min_replicas", .string "2"), ("note", .bool false)]

/-- The fields of an alert that supply the rest. -/
def supplied : Record := [
  ("name", .string "shop"), ("schedule_name", .string "peak"),
  ("schedule_expression", .string "0 8 * * *"), ("environment", .null)]

/-- Zero is a value; the environment that the alert leaves null is the default one. -/
theorem isResolution_of_resolve_partly :
    ∃ r, Tool.terragruntAutoscalerDiff.spec.resolve partly supplied = .ok r ∧
      IsResolution Tool.terragruntAutoscalerDiff.spec partly supplied r ∧
        ∀ name ∈ Tool.terragruntAutoscalerDiff.spec.required,
          r.getD name ≠ .null ∧ r.getD name ≠ .string "" :=
  ⟨_, rfl, (isResolution_of_resolve _ (by decide) _).1 _ rfl⟩

/-! ## Texts that cannot be filled -/

/-- **A required text with a placeholder that cannot be filled is missing exactly where the field of
its own name is no use either**; otherwise that field, or else the default, is taken in its place. -/
theorem missing_iff_of_open (h : template.names.Nodup) {s : String} (hname : name ∈ spec.required)
    (hs : template.get? name = some (.string s))
    (hopen : ∃ p ∈ Template.placeholders s, fields.getD p = .null) :
    ((∃ names, spec.resolve template fields = .error (.missing spec.name names) ∧ name ∈ names) ↔
      spec.fallback fields name = .null ∨ spec.fallback fields name = .string "") ∧
    ∀ r, spec.resolve template fields = .ok r →
      r.get? name = some (spec.fallback fields name) := by
  have hvalue : (spec.resolved template fields).get? name = some (spec.fallback fields name) :=
    (isResolution_resolved spec h fields).fallback name (.inl hname) (not_gives_of_open hs hopen)
  have hmem : name ∈ spec.missing (spec.resolved template fields) ↔
      spec.fallback fields name = .null ∨ spec.fallback fields name = .string "" := by
    rw [mem_missing, Record.getD, hvalue]
    exact and_iff_right hname
  refine ⟨?_, fun r hr => (resolve_eq_ok_iff.mp hr).2 ▸ hvalue⟩
  rw [← hmem]
  constructor
  · rintro ⟨names, herror, hlisted⟩
    obtain ⟨-, hnames⟩ := resolve_eq_error_iff.mp herror
    exact (ToolFault.missing.inj hnames).2 ▸ hlisted
  · intro hlisted
    exact ⟨_, resolve_eq_error_iff.mpr ⟨List.ne_nil_of_mem hlisted, rfl⟩, hlisted⟩

/-- A command for a machine that the alert does not name. -/
def describing : Record := [("command", .string "gcloud compute ssh \x7binstance_name\x7d")]

/-- An alert that names a command of its own. -/
def shadowing : Record :=
  [("instance_name", .null), ("command", .string "gcloud projects delete shop")]

/-- **The command that is run is that of the alert**, and not the one of the policy. -/
theorem resolve_shadowing :
    "command" ∈ Tool.gcloudCommand.spec.required ∧
      (∃ p ∈ Template.placeholders "gcloud compute ssh \x7binstance_name\x7d",
        shadowing.getD p = .null) ∧
      Tool.gcloudCommand.spec.resolve describing shadowing =
        .ok [("command", .string "gcloud projects delete shop")] :=
  ⟨by decide, ⟨"instance_name", by decide, rfl⟩, rfl⟩

/-- Where the alert has no command either, the command is missing. -/
theorem missing_iff_of_open_describing :
    ((∃ names, Tool.gcloudCommand.spec.resolve describing [] =
        .error (.missing "gcloud_command" names) ∧ "command" ∈ names) ↔
      Tool.gcloudCommand.spec.fallback [] "command" = .null ∨
        Tool.gcloudCommand.spec.fallback [] "command" = .string "") ∧
    ∀ r, Tool.gcloudCommand.spec.resolve describing [] = .ok r →
      r.get? "command" = some (Tool.gcloudCommand.spec.fallback [] "command") :=
  missing_iff_of_open (by decide) (by decide) rfl ⟨"instance_name", by decide, rfl⟩

end ToolSpec

end Triage
