import Triage.Proofs.Policy
import Triage.Proofs.Record

/-!
# Policies of an older form

Two things are said otherwise in older documents: a single action template stands under a name of
its own, and the extraction defaults have another name. Both forms mean the same. A document in the
older form is checked as what it is in the newer one, with the same outcome, and where it says
something in both forms the older one is not looked at (`Policy.keepsMeaning_check`).

A check knows of a record only what it finds under the names that it looks up
(`Policy.checkFields_congr`), so that all of this comes down to lookups: in a record with a field
renamed (`Record.get?_rename`) and in one that has been brought up to date (`Policy.get?_upgrade`).
-/

namespace Triage

open Schema Checked

/-! ## Renamed fields -/

namespace Record

variable {r r' : Record} {old new : String}

/-- Gives the fields of a name another name, in their place. -/
def rename (r : Record) (old new : String) : Record :=
  r.map fun field => if field.1 = old then (new, field.2) else field

/-- What stood under the old name stands under the new one, if nothing did before. -/
theorem get?_rename (hnew : r.get? new = none) (name : String) :
    (r.rename old new).get? name =
      if name = new then r.get? old else if name = old then none else r.get? name := by
  unfold rename
  induction r with
  | nil => simp
  | cons field rest ih =>
      rw [get?_cons] at hnew
      split at hnew
      · cases hnew
      rename_i hfield
      rw [List.map_cons, get?_cons, ih hnew, get?_cons, get?_cons]
      by_cases hold : field.1 = old
      · subst hold
        by_cases hname : name = new
        · simp [hname]
        · by_cases heq : name = field.1 <;> simp [hname, heq, Ne.symm hfield]
      · rw [if_neg hold, if_neg (Ne.symm hold)]
        by_cases hname : name = new
        · simp [hname, hfield]
        · by_cases heq : name = field.1 <;> simp [hname, heq, hold, Ne.symm hfield]

/-- Two records have the same values but under one name. -/
def AgreeBut (name : String) (r r' : Record) : Prop :=
  ∀ other, other ≠ name → r.get? other = r'.get? other

end Record

/-! ## Issues told under another name -/

/-- An issue with a field, told of the field under another name. -/
def Issue.retell (old new : String) (issue : Issue) : Issue :=
  match issue.path with
  | .name name :: path => if name = old then { issue with path := .name new :: path } else issue
  | _ => issue

/-- Issues with the field of this name are left as they are. -/
def Issue.Spares (f : Issue → Issue) (name : String) : Prop :=
  ∀ (path : List Step) (cause : Cause), f ⟨.name name :: path, cause⟩ = ⟨.name name :: path, cause⟩

theorem Issue.spares_retell {old new name : String} (h : name ≠ old) :
    Spares (retell old new) name := by
  intro path cause
  rw [retell]
  exact if_neg h

namespace Checked

variable {α β : Type} {f : Issue → Issue} {name : String}

/-- The same outcome with other issues. -/
def mapIssues (f : Issue → Issue) : Checked α → Checked α
  | valid a => valid a
  | invalid issues => invalid (issues.map f)
  | countTooLarge => countTooLarge

theorem mapIssues_id (x : Checked α) : x.mapIssues id = x := by
  cases x <;> simp [mapIssues]

theorem mapIssues_eq_valid_iff {x : Checked α} {a : α} : x.mapIssues f = valid a ↔ x = valid a := by
  cases x <;> simp [mapIssues]

theorem mapIssues_map (g : α → β) (x : Checked α) :
    (g <$> x).mapIssues f = g <$> x.mapIssues f := by
  cases x <;> rfl

theorem mapIssues_seq (g : Checked (α → β)) (x : Checked α) :
    (g <*> x).mapIssues f = g.mapIssues f <*> x.mapIssues f := by
  cases g <;> cases x <;> simp [Seq.seq, seq, mapIssues]

theorem mapIssues_under (h : Issue.Spares f name) (x : Checked α) :
    (x.under (.name name)).mapIssues f = x.under (.name name) := by
  cases x with
  | invalid issues => simp [under, mapIssues, h _ _]
  | _ => rfl

theorem retell_under {old new : String} (x : Checked α) :
    (x.under (.name old)).mapIssues (.retell old new) = x.under (.name new) := by
  cases x with
  | invalid issues => simp [under, mapIssues, Issue.retell]
  | _ => rfl

end Checked

namespace Schema

variable {α : Type} {f : Issue → Issue} {r : Record} {check : Json → Checked α}
  {old new name : String}

theorem mapIssues_required (h : Issue.Spares f name) :
    (required r name check).mapIssues f = required r name check := by
  unfold required
  split <;> exact mapIssues_under h _

theorem mapIssues_withDefault (h : Issue.Spares f name) (default : α) :
    (withDefault r name default check).mapIssues f = withDefault r name default check := by
  unfold withDefault
  split
  · exact mapIssues_under h _
  · rfl

end Schema

namespace Policy

variable {r r' modern : Record} {t : String}

/-! ## What a check looks up -/

/-- The names of the fields of a policy, the extraction defaults apart. -/
def plainNames : List String :=
  ["alert_type", "name", "description", "patterns", "action_templates", "summary_template",
    "decision_rules", "default_decision", "sample_texts", "critical_fields", "guard",
    "prompt_hints"]

/-- A check knows of a record what it finds under the names of the fields, and nothing else. If in
another record the extraction defaults have other issues, these are all that shows. -/
theorem checkFields_mapIssues {f : Issue → Issue} (hf : ∀ name ∈ plainNames, Issue.Spares f name)
    (h : ∀ name ∈ plainNames, r.get? name = r'.get? name)
    (hdefaults : withDefault r (defaultsName r) [] anyMap =
      (withDefault r' (defaultsName r') [] anyMap).mapIssues f) :
    checkFields r = (checkFields r').mapIssues f := by
  simp only [plainNames, List.forall_mem_cons, List.not_mem_nil, false_imp_iff, implies_true,
    and_true] at hf h
  obtain ⟨ftype, fname, fdescription, fpatterns, ftemplates, fsummary, frules, fdecision, fsamples,
    fcritical, fguard, fhints⟩ := hf
  obtain ⟨htype, hname, hdescription, hpatterns, htemplates, hsummary, hrules, hdecision, hsamples,
    hcritical, hguard, hhints⟩ := h
  unfold checkFields
  rw [hdefaults, required_congr htype, withDefault_congr hname, withDefault_congr hdescription,
    withDefault_congr hpatterns, withDefault_congr htemplates, withDefault_congr hsummary,
    withDefault_congr hrules, withDefault_congr hdecision, withDefault_congr hsamples,
    withDefault_congr hcritical, withDefault_congr hguard, withDefault_congr hhints]
  simp only [mapIssues_seq, mapIssues_map, mapIssues_required ftype, mapIssues_withDefault fname,
    mapIssues_withDefault fdescription, mapIssues_withDefault fpatterns,
    mapIssues_withDefault ftemplates, mapIssues_withDefault fsummary, mapIssues_withDefault frules,
    mapIssues_withDefault fdecision, mapIssues_withDefault fsamples,
    mapIssues_withDefault fcritical, mapIssues_withDefault fguard, mapIssues_withDefault fhints]

theorem checkFields_congr (h : ∀ name ∈ plainNames, r.get? name = r'.get? name)
    (hdefaults : withDefault r (defaultsName r) [] anyMap =
      withDefault r' (defaultsName r') [] anyMap) : checkFields r = checkFields r' := by
  rw [← mapIssues_id (checkFields r')]
  exact checkFields_mapIssues (fun _ _ _ _ => rfl) h (by rw [mapIssues_id, hdefaults])

/-- The extraction defaults are those under the newer name, or else those under the older one. -/
theorem withDefault_defaultsName (r : Record) :
    withDefault r (defaultsName r) [] anyMap =
      match r.get? "extraction_defaults", r.get? "extraction_rules" with
      | some v, _ => (anyMap v).under (.name "extraction_defaults")
      | none, some v => (anyMap v).under (.name "extraction_rules")
      | none, none => valid [] := by
  unfold withDefault defaultsName Record.has
  cases hnewer : r.get? "extraction_defaults" with
  | some v => simp [hnewer]
  | none => cases holder : r.get? "extraction_rules" <;> simp [hnewer, holder]

theorem check_object (r : Record) : check (.object r) = checkFields (upgrade r) := rfl

/-! ## A single action template -/

/-- A single action template is given, and no list of them. -/
def isSingle (r : Record) : Bool :=
  !(r.getD "action_template").isNothing && (r.getD "action_templates").isNothing

/-- The list of one action template. -/
def listOfOne (template : Json) : Json :=
  .array [.object [("label", .string "Default"), ("template", template)]]

/-- What is found in a record that has been brought up to date. -/
theorem get?_upgrade (r : Record) (name : String) :
    (upgrade r).get? name =
      if isSingle r then
        if name = "action_templates" then some (listOfOne (r.getD "action_template"))
        else if name = "action_template" then none
        else r.get? name
      else r.get? name := by
  rw [show upgrade r = if isSingle r then (r.erase "action_template").set "action_templates"
    (listOfOne (r.getD "action_template")) else r from rfl]
  split
  · rw [Record.get?_set, Record.get?_erase]
  · rfl

theorem get?_upgrade_of_ne {name : String} (htemplates : name ≠ "action_templates")
    (htemplate : name ≠ "action_template") : (upgrade r).get? name = r.get? name := by
  rw [get?_upgrade, if_neg htemplates, if_neg htemplate, ite_self]

theorem upgrade_of_not_single (h : isSingle r = false) : upgrade r = r :=
  if_neg (Bool.eq_false_iff.mp h)

theorem isSingle_congr (htemplate : r.get? "action_template" = r'.get? "action_template")
    (htemplates : r.get? "action_templates" = r'.get? "action_templates") :
    isSingle r = isSingle r' := by
  unfold isSingle Record.getD
  rw [htemplate, htemplates]

theorem get?_upgrade_congr {name : String}
    (htemplate : r.get? "action_template" = r'.get? "action_template")
    (htemplates : r.get? "action_templates" = r'.get? "action_templates")
    (hname : r.get? name = r'.get? name) : (upgrade r).get? name = (upgrade r').get? name := by
  rw [get?_upgrade, get?_upgrade, isSingle_congr htemplate htemplates, hname, Record.getD,
    Record.getD, htemplate]

/-- `modern` is the record `r` with its single action template `t` in a list. -/
structure IsModern (r modern : Record) (t : String) : Prop where
  single : modern.get? "action_template" = none
  list : modern.get? "action_templates" = some (listOfOne (.string t))
  others : ∀ name, name ≠ "action_template" → name ≠ "action_templates" →
    modern.get? name = r.get? name

/-- It is had by dropping the one field and setting the other. -/
theorem isModern_set (r : Record) (t : String) :
    IsModern r ((r.erase "action_template").set "action_templates" (listOfOne (.string t))) t where
  single := by rw [Record.get?_set, if_neg (by decide), Record.get?_erase, if_pos rfl]
  list := by rw [Record.get?_set, if_pos rfl]
  others := by
    intro name htemplate htemplates
    rw [Record.get?_set, if_neg htemplates, Record.get?_erase, if_neg htemplate]

theorem IsModern.isSingle_eq (hm : IsModern r modern t) : isSingle modern = false := by
  simp [isSingle, Record.getD, hm.single, Json.isNothing]

/-- A list of one gives a policy with this one template. -/
theorem IsModern.actionTemplates_eq {p : Policy} (hm : IsModern r modern t)
    (hp : check (.object modern) = .valid p) : p.actionTemplates = [⟨"Default", none, t, []⟩] := by
  rw [check_object, upgrade_of_not_single hm.isSingle_eq] at hp
  have hchecked := (reads_of_checkFields hp).actionTemplates
  have hone : withDefault modern "action_templates" [] (listOf ActionTemplate.check) =
      .valid [⟨"Default", none, t, []⟩] := withDefault_of_get? hm.list rfl
  rw [hone] at hchecked
  exact (Checked.valid.inj hchecked).symm

/-- **A single action template is checked as a list of one.** -/
theorem check_of_isModern (ht : t ≠ "") (hsingle : r.get? "action_template" = some (.string t))
    (hnone : (r.getD "action_templates").isNothing = true) (hm : IsModern r modern t) :
    check (.object r) = check (.object modern) := by
  have htemplate : r.getD "action_template" = .string t := by rw [Record.getD, hsingle]; rfl
  have hr : isSingle r = true := by
    rw [isSingle, htemplate, hnone]
    simp [Json.isNothing, ht]
  have hfound (name : String) : (upgrade r).get? name = modern.get? name := by
    rw [get?_upgrade, if_pos hr, htemplate]
    split
    · rename_i hname
      rw [hname, hm.list]
    · rename_i htemplates
      split
      · rename_i hname
        rw [hname, hm.single]
      · rename_i hne
        exact (hm.others name hne htemplates).symm
  rw [check_object, check_object, upgrade_of_not_single hm.isSingle_eq]
  refine checkFields_congr (fun name _ => hfound name) ?_
  rw [withDefault_defaultsName, withDefault_defaultsName, hfound, hfound]

/-- **Beside a list of action templates a single one is not looked at.** -/
theorem check_of_agreeBut_template (h : Record.AgreeBut "action_template" r r')
    (hlist : (r.getD "action_templates").isNothing = false) :
    check (.object r) = check (.object r') := by
  have htemplates : r.get? "action_templates" = r'.get? "action_templates" := h _ (by decide)
  have hr : isSingle r = false := by simp [isSingle, hlist]
  have hr' : isSingle r' = false := by
    rw [Record.getD, htemplates] at hlist
    simp [isSingle, Record.getD, hlist]
  rw [check_object, check_object, upgrade_of_not_single hr, upgrade_of_not_single hr']
  refine checkFields_congr (fun name hname => h name ?_) ?_
  · rintro rfl
    revert hname
    decide
  · rw [withDefault_defaultsName, withDefault_defaultsName, h _ (by decide), h _ (by decide)]

/-! ## Extraction defaults -/

/-- **Beside extraction defaults under the newer name, those under the older one are not looked
at.** -/
theorem check_of_agreeBut_rules (h : Record.AgreeBut "extraction_rules" r r')
    (hnewer : r.get? "extraction_defaults" ≠ none) : check (.object r) = check (.object r') := by
  have hfound {name : String} (hname : name ≠ "extraction_rules") :
      (upgrade r).get? name = (upgrade r').get? name :=
    get?_upgrade_congr (h _ (by decide)) (h _ (by decide)) (h name hname)
  obtain ⟨v, hv⟩ := Option.ne_none_iff_exists'.mp hnewer
  have hdefaults : (upgrade r).get? "extraction_defaults" = some v := by
    rw [get?_upgrade_of_ne (by decide) (by decide), hv]
  rw [check_object, check_object]
  refine checkFields_congr (fun name hname => hfound ?_) ?_
  · rintro rfl
    revert hname
    decide
  · rw [withDefault_defaultsName, withDefault_defaultsName, ← hfound (by decide), hdefaults]

/-- **Under the older name the extraction defaults are checked as under the newer one**; only that
issues with them are told under the name given. -/
theorem check_rename (h : r.get? "extraction_defaults" = none) :
    check (.object (r.rename "extraction_rules" "extraction_defaults")) =
      (check (.object r)).mapIssues (.retell "extraction_rules" "extraction_defaults") := by
  have hrename (name : String) :
      (r.rename "extraction_rules" "extraction_defaults").get? name =
        if name = "extraction_defaults" then r.get? "extraction_rules"
        else if name = "extraction_rules" then none else r.get? name :=
    Record.get?_rename h name
  have hother {name : String} (hnewer : name ≠ "extraction_defaults")
      (holder : name ≠ "extraction_rules") :
      (r.rename "extraction_rules" "extraction_defaults").get? name = r.get? name := by
    rw [hrename, if_neg hnewer, if_neg holder]
  rw [check_object, check_object]
  refine checkFields_mapIssues (fun name hname => Issue.spares_retell ?_) (fun name hname => ?_) ?_
  · rintro rfl
    revert hname
    decide
  · refine get?_upgrade_congr (hother (by decide) (by decide)) (hother (by decide) (by decide))
      (hother ?_ ?_)
    all_goals
      rintro rfl
      revert hname
      decide
  · simp only [withDefault_defaultsName]
    rw [get?_upgrade_of_ne (by decide) (by decide), get?_upgrade_of_ne (by decide) (by decide),
      get?_upgrade_of_ne (by decide) (by decide), get?_upgrade_of_ne (by decide) (by decide), h,
      hrename, if_pos rfl, hrename, if_neg (by decide), if_pos rfl]
    cases r.get? "extraction_rules" with
    | none => rfl
    | some v => exact (retell_under _).symm

/-! ## Both forms -/

/-- A document in an older form means what it means in the newer one. -/
structure KeepsMeaning (r : Record) : Prop where
  /-- A single action template has the outcome of a list of one. -/
  template : ∀ t, t ≠ "" → r.get? "action_template" = some (.string t) →
    (r.getD "action_templates").isNothing = true →
    ∀ modern, IsModern r modern t → check (.object r) = check (.object modern)
  /-- If it is accepted, the policy has this one template. -/
  templates : ∀ t, t ≠ "" → r.get? "action_template" = some (.string t) →
    (r.getD "action_templates").isNothing = true →
    ∀ p, check (.object r) = .valid p → p.actionTemplates = [⟨"Default", none, t, []⟩]
  /-- Extraction defaults under the older name have the outcome of those under the newer one. Only
  the issues with them, if there are any, are told under the name that they are given under. -/
  defaults : r.get? "extraction_defaults" = none →
    check (.object (r.rename "extraction_rules" "extraction_defaults")) =
      (check (.object r)).mapIssues (.retell "extraction_rules" "extraction_defaults")
  /-- So the same documents are accepted, as the same policies. -/
  accepted : r.get? "extraction_defaults" = none → ∀ p,
    check (.object (r.rename "extraction_rules" "extraction_defaults")) = .valid p ↔
      check (.object r) = .valid p
  /-- Beside a list of templates it does not matter what stands for a single one, if anything. -/
  noTemplate : (r.getD "action_templates").isNothing = false →
    ∀ r', Record.AgreeBut "action_template" r r' → check (.object r) = check (.object r')
  /-- Beside the newer name it does not matter what stands under the older one, if anything. -/
  noRules : r.get? "extraction_defaults" ≠ none →
    ∀ r', Record.AgreeBut "extraction_rules" r r' → check (.object r) = check (.object r')

/-- **Every document in an older form keeps its meaning.** -/
theorem keepsMeaning_check (r : Record) : KeepsMeaning r where
  template := fun _ ht hsingle hnone _ hm => check_of_isModern ht hsingle hnone hm
  templates := by
    intro t ht hsingle hnone p hp
    have hmodern := isModern_set r t
    rw [check_of_isModern ht hsingle hnone hmodern] at hp
    exact hmodern.actionTemplates_eq hp
  defaults := check_rename
  accepted := by
    intro h p
    rw [check_rename h, mapIssues_eq_valid_iff]
  noTemplate := fun hlist _ h => check_of_agreeBut_template h hlist
  noRules := fun hnewer _ h => check_of_agreeBut_rules h hnewer

end Policy
end Triage
