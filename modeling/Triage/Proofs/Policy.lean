import Triage.Policy.Basic
import Triage.Proofs.Schema

/-!
# What the check of a policy finds, and where it stops

The check of a policy gives the policy or all issues with it, with one exception: it stops where an
expression repeats something more often than can be counted. Nothing else in a policy can stop it.
The rules of a policy hold expressions too, but these are not read before they are needed.

`Policy.IsUncountable` says where the exception is, in terms of the document: an entry of its list
of patterns has such an expression and is right in every other respect. A pattern with another
fault is not read, so that its issues are told instead.

Read backwards, the check says where every part of an accepted policy comes from (`Policy.Reads`):
in particular its patterns are those of the document, each with all of its groups
(`PatternSpec.parts_of_check`, `Policy.patterns_of_check`).
-/

namespace Triage

open Schema Checked

/-! ## Parts without expressions -/

namespace Schema

theorem decides_object {α : Type} {check : Record → Checked α} (hc : ∀ r, Decides (check r))
    (v : Json) : Decides (object check v) := by
  cases v with
  | object fields => exact hc fields
  | _ => exact decides_fault _

theorem decides_anyMap (v : Json) : Decides (anyMap v) := by
  cases v with
  | object fields => exact decides_valid fields
  | _ => exact decides_fault _

theorem decides_wholeOfNumber (x : Binary64) : Decides (wholeOfNumber x) := by
  unfold wholeOfNumber
  split
  · split
    · exact decides_valid _
    · exact decides_fault _
  · exact decides_fault _

theorem decides_whole (v : Json) : Decides (whole v) := by
  unfold whole
  split
  · exact decides_valid _
  · exact decides_valid _
  · exact decides_wholeOfNumber _
  · split
    · split
      · exact decides_valid _
      · exact decides_fault _
    · exact decides_fault _
  · exact decides_fault _

end Schema

theorem DecisionState.decides_check (v : Json) : Decides (DecisionState.check v) := by
  unfold DecisionState.check
  split
  · split
    · exact decides_valid _
    · exact decides_fault _
  · exact decides_fault _

theorem Guard.decides_check (v : Json) : Decides (Guard.check v) := by
  have htexts := decides_listOf decides_text
  refine decides_object (fun r => ?_) v
  exact decides_seq (decides_map (decides_withDefault _ htexts) _) (decides_withDefault _ htexts)

theorem ActionTemplate.decides_check (v : Json) : Decides (ActionTemplate.check v) := by
  refine decides_object (fun r => ?_) v
  refine decides_seq (decides_seq (decides_seq (decides_map ?_ _) ?_) ?_) ?_
  · exact decides_withDefault _ decides_text
  · exact decides_withDefault _ (decides_optional decides_text)
  · exact decides_required decides_text
  · exact decides_withDefault _ decides_anyMap

theorem DecisionRule.decides_check (v : Json) : Decides (DecisionRule.check v) := by
  refine decides_object (fun r => ?_) v
  refine decides_seq (decides_map (decides_withDefault _ decides_anyMap) _) ?_
  exact decides_required DecisionState.decides_check

/-! ## Patterns -/

namespace PatternSpec

variable {q : PatternSpec} {groups : Nat}

/-- Fields with their groups, as a document has them. -/
def signed (captures : List (String × Nat)) : List (String × Int) :=
  captures.map fun c => (c.1, (c.2 : Int))

/-- The groups of a pattern's fields, as a document has them. -/
def written (q : PatternSpec) : List (String × Int) := signed q.captures

theorem groupOf?_eq_some_iff {index : Int} {n : Nat} :
    groupOf? groups index = some n ↔ index = n ∧ n ≤ groups := by
  unfold groupOf?
  split
  · rw [Option.some.injEq]
    omega
  · constructor
    · intro h
      cases h
    · omega

/-- Where no field has an unknown group, none is left out. -/
theorem signed_known {captures : List (String × Int)} (h : firstUnknown? groups captures = none) :
    signed (known groups captures) = captures := by
  rw [signed]
  induction captures with
  | nil => rfl
  | cons c rest ih =>
      obtain ⟨hc, hrest⟩ := List.forall_mem_cons.mp (List.find?_eq_none.mp h)
      obtain ⟨n, hn⟩ : ∃ n, groupOf? groups c.2 = some n :=
        Option.ne_none_iff_exists'.mp (by simpa using hc)
      have htail := ih (List.find?_eq_none.mpr hrest)
      rw [known] at htail ⊢
      rw [List.filterMap_cons_some (by rw [hn]; rfl), List.map_cons, htail,
        ← (groupOf?_eq_some_iff.mp hn).1]

/-- Groups that an expression has are known to it. -/
theorem known_signed {captures : List (String × Nat)} (h : ∀ c ∈ captures, c.2 ≤ groups) :
    firstUnknown? groups (signed captures) = none ∧ known groups (signed captures) = captures := by
  rw [signed]
  induction captures with
  | nil => exact ⟨rfl, rfl⟩
  | cons c rest ih =>
      obtain ⟨hc, hrest⟩ := List.forall_mem_cons.mp h
      obtain ⟨hunknown, hknown⟩ := ih hrest
      have hn : groupOf? groups (c.2 : Int) = some c.2 := groupOf?_eq_some_iff.mpr ⟨rfl, hc⟩
      rw [firstUnknown?] at hunknown ⊢
      rw [known] at hknown ⊢
      rw [List.map_cons, List.find?_cons_of_neg (by simp [hn]), hunknown,
        List.filterMap_cons_some (by rw [hn]; rfl), hknown]
      exact ⟨rfl, rfl⟩

/-- **A pattern is made of an expression that can be read and of groups that it has**, and of all
that were given. -/
theorem ofParts_eq_valid_iff {source : String} {captures : List (String × Int)} :
    ofParts source captures = .valid q ↔ source = q.source ∧ captures = q.written := by
  constructor
  · intro h
    unfold ofParts at h
    split at h
    · cases h
    · cases h
    · cases h
    · cases h
    · split at h
      · cases h
      · rename_i hknown
        cases h
        exact ⟨rfl, (signed_known hknown).symm⟩
  · rintro ⟨rfl, rfl⟩
    obtain ⟨hunknown, hknown⟩ := known_signed q.captures_le
    unfold ofParts
    split
    all_goals rename_i h
    all_goals rw [q.compiles] at h
    · cases h
    · cases h
    · cases h
    · cases h
    · obtain rfl := Except.ok.inj h
      rw [written]
      split
      · rename_i hsome
        rw [hunknown] at hsome
        cases hsome
      · cases q
        simp_all

/-- What the entry for a pattern says: its expression, which is not empty, and the groups of its
fields. -/
theorem parts_of_check {v : Json} (h : check v = .valid q) :
    ∃ r : Record, v = .object r ∧ r.get? "pattern" = some (.string q.source) ∧ q.source ≠ "" ∧
      withDefault r "capture_groups" [] (mapOf whole) = .valid q.written := by
  cases v with
  | object r =>
      rw [check, object, andThen_eq_valid_iff] at h
      obtain ⟨⟨source, captures⟩, hparts, h⟩ := h
      simp only [seq_eq_valid_iff, map_eq_valid_iff] at hparts
      obtain ⟨_, _, ⟨_, given, ⟨_, -, rfl⟩, hgiven, rfl⟩, hcaptures, heq⟩ := hparts
      obtain ⟨rfl, rfl⟩ := Prod.mk.inj heq
      obtain ⟨hsource, hwritten⟩ := ofParts_eq_valid_iff.mp h
      obtain ⟨w, hw, htext⟩ := required_eq_valid_iff.mp hgiven
      rw [nonEmptyText_eq_valid_iff.mp htext] at hw
      exact ⟨r, rfl, hsource ▸ hw, hsource ▸ given.property, hwritten ▸ hcaptures⟩
  | _ => cases h

theorem decides_checkKind (v : Json) : Decides (checkKind v) := by
  refine decides_andThen (decides_text v) fun s => ?_
  split
  · exact decides_valid s
  · exact decides_fault _

theorem ofParts_eq_countTooLarge_iff {source : String} {captures : List (String × Int)} :
    ofParts source captures = countTooLarge ↔
      Regex.compile true source = .error .countTooLarge := by
  unfold ofParts
  split
  all_goals rename_i h
  · simp [h, fault]
  · simp [h]
  · simp [h, fault]
  · simp [h, fault]
  · split <;> simp [h, fault]

/-- An entry for a pattern whose expression cannot be counted, and which is right otherwise. -/
def IsUncountable (v : Json) : Prop :=
  ∃ (r : Record) (source : String) (captures : List (String × Int)),
    v = .object r ∧
    (∃ s, withDefault r "type" kind checkKind = .valid s) ∧
    r.get? "pattern" = some (.string source) ∧ source ≠ "" ∧
    withDefault r "capture_groups" [] (mapOf whole) = .valid captures ∧
    Regex.compile true source = .error .countTooLarge

theorem check_eq_countTooLarge_iff {v : Json} : check v = countTooLarge ↔ IsUncountable v := by
  cases v with
  | object r =>
      have hkind : Decides (withDefault r "type" kind checkKind) :=
        decides_withDefault _ decides_checkKind
      have hsource : Decides (required r "pattern" nonEmptyText) :=
        decides_required decides_nonEmptyText
      have hcaptures : Decides (withDefault r "capture_groups" [] (mapOf whole)) :=
        decides_withDefault _ (decides_mapOf decides_whole)
      have hparts := decides_seq (decides_seq (decides_map hkind
        fun _ (source : { s : String // s ≠ "" }) (captures : List (String × Int)) =>
          (source.val, captures)) hsource) hcaptures
      rw [check, object, andThen_eq_countTooLarge_iff]
      constructor
      · rintro (h | ⟨⟨source, captures⟩, hvalid, h⟩)
        · exact absurd h hparts
        · -- the expression is read after the other fields, and so these are right
          simp only [seq_eq_valid_iff, map_eq_valid_iff] at hvalid
          obtain ⟨_, _, ⟨_, given, ⟨s, hs, rfl⟩, hgiven, rfl⟩, hc, heq⟩ := hvalid
          obtain ⟨rfl, rfl⟩ := Prod.mk.inj heq
          obtain ⟨w, hw, htext⟩ := required_eq_valid_iff.mp hgiven
          rw [nonEmptyText_eq_valid_iff.mp htext] at hw
          exact ⟨r, _, _, rfl, ⟨s, hs⟩, hw, given.property, hc,
            ofParts_eq_countTooLarge_iff.mp h⟩
      · rintro ⟨_, source, captures, ⟨rfl⟩, ⟨s, hs⟩, hw, hne, hc, hcompile⟩
        have hgiven : required r "pattern" nonEmptyText = .valid ⟨source, hne⟩ :=
          required_eq_valid_iff.mpr ⟨_, hw, nonEmptyText_eq_valid_iff.mpr rfl⟩
        refine .inr ⟨(source, captures), ?_, ofParts_eq_countTooLarge_iff.mpr hcompile⟩
        rw [hs, hgiven, hc]
        rfl
  | _ => simp [check, object, fault, IsUncountable]

end PatternSpec

/-! ## Policies -/

namespace Policy

/-- The policy holds what its document says, brought up to date. -/
structure Reads (r : Record) (p : Policy) : Prop where
  alertType : r.get? "alert_type" = some (.string p.alertType)
  name : withDefault r "name" none (optional text) = .valid p.name
  description : withDefault r "description" none (optional text) = .valid p.description
  patterns : withDefault r "patterns" [] (listOf PatternSpec.check) = .valid p.patterns
  extractionDefaults : withDefault r (defaultsName r) [] anyMap = .valid p.extractionDefaults
  actionTemplates :
    withDefault r "action_templates" [] (listOf ActionTemplate.check) = .valid p.actionTemplates
  summaryTemplate : withDefault r "summary_template" none (optional text) = .valid p.summaryTemplate
  decisionRules :
    withDefault r "decision_rules" [] (listOf DecisionRule.check) = .valid p.decisionRules
  defaultDecision :
    withDefault r "default_decision" none (optional DecisionState.check) = .valid p.defaultDecision
  sampleTexts : withDefault r "sample_texts" [] (listOf text) = .valid p.sampleTexts
  criticalFields : withDefault r "critical_fields" [] (listOf text) = .valid p.criticalFields
  guard : withDefault r "guard" none (optional Guard.check) = .valid p.guard
  promptHints : withDefault r "prompt_hints" [] (listOf text) = .valid p.promptHints

theorem reads_of_checkFields {r : Record} {p : Policy} (h : checkFields r = .valid p) :
    Reads r p := by
  rw [checkFields] at h
  simp only [seq_eq_valid_iff, map_eq_valid_iff] at h
  obtain ⟨_, _, ⟨_, _, ⟨_, _, ⟨_, _, ⟨_, _, ⟨_, _, ⟨_, _, ⟨_, _, ⟨_, _, ⟨_, _, ⟨_, _, ⟨_, _,
    ⟨type, htype, rfl⟩, hname, rfl⟩, hdescription, rfl⟩, hpatterns, rfl⟩, hdefaults, rfl⟩,
    htemplates, rfl⟩, hsummary, rfl⟩, hrules, rfl⟩, hdecision, rfl⟩, hsamples, rfl⟩, hcritical,
    rfl⟩, hguard, rfl⟩, hhints, rfl⟩ := h
  obtain ⟨v, hv, hcheck⟩ := required_eq_valid_iff.mp htype
  exact
    { alertType := by rw [hv, nonEmptyText_eq_valid_iff.mp hcheck]; rfl
      name := hname
      description := hdescription
      patterns := hpatterns
      extractionDefaults := hdefaults
      actionTemplates := htemplates
      summaryTemplate := hsummary
      decisionRules := hrules
      defaultDecision := hdecision
      sampleTexts := hsamples
      criticalFields := hcritical
      guard := hguard
      promptHints := hhints }

/-- An older form of the action templates has no bearing on the patterns. -/
theorem get?_upgrade_patterns (r : Record) :
    Record.get? (upgrade r) "patterns" = Record.get? r "patterns" := by
  rw [upgrade]
  split
  · rw [Record.get?_set, if_neg (by decide), Record.get?_erase, if_neg (by decide)]
  · rfl

/-- The patterns of a policy are those that its entry lists, one to one; without a list there are
none. -/
theorem patterns_of_check {v : Json} {p : Policy} (h : check v = .valid p) :
    ∃ r : Record, v = .object r ∧
      ((r.get? "patterns" = none ∧ p.patterns = []) ∨
        ∃ items, r.get? "patterns" = some (.array items) ∧
          List.Forall₂ (fun w q => PatternSpec.check w = .valid q) items p.patterns) := by
  cases v with
  | object r =>
      refine ⟨r, rfl, ?_⟩
      rw [← get?_upgrade_patterns]
      rcases withDefault_eq_valid_iff.mp (reads_of_checkFields h).patterns with
        ⟨w, hw, hlist⟩ | ⟨hnone, hempty⟩
      · obtain ⟨items, rfl, hitems⟩ := forall₂_of_listOf hlist
        exact .inr ⟨items, hw, hitems⟩
      · exact .inl ⟨hnone, hempty.symm⟩
  | _ => cases h

/-- The expressions of an accepted policy are not empty. -/
theorem source_ne_of_check {v : Json} {p : Policy} (h : check v = .valid p) :
    ∀ q ∈ p.patterns, q.source ≠ "" := by
  obtain ⟨r, -, ⟨-, hempty⟩ | ⟨items, -, hitems⟩⟩ := patterns_of_check h
  · simp [hempty]
  · generalize p.patterns = patterns at hitems
    induction hitems with
    | nil => simp
    | cons hw _ ih =>
        obtain ⟨_, -, -, hne, -⟩ := PatternSpec.parts_of_check hw
        exact List.forall_mem_cons.mpr ⟨hne, ih⟩

/-- An entry for a policy that lists a pattern whose expression cannot be counted. -/
def IsUncountable (v : Json) : Prop :=
  ∃ (r : Record) (items : List Json), v = .object r ∧ r.get? "patterns" = some (.array items) ∧
    ∃ item ∈ items, PatternSpec.IsUncountable item

theorem checkFields_eq_countTooLarge_iff {r : Record} :
    checkFields r = countTooLarge ↔
      withDefault r "patterns" [] (listOf PatternSpec.check) = countTooLarge := by
  have htext : ∀ name, ¬ withDefault r name none (optional text) = countTooLarge :=
    fun name => decides_withDefault _ (decides_optional decides_text)
  have htexts : ∀ name, ¬ withDefault r name [] (listOf text) = countTooLarge :=
    fun name => decides_withDefault _ (decides_listOf decides_text)
  have htype : ¬ required r "alert_type" nonEmptyText = countTooLarge :=
    decides_required decides_nonEmptyText
  have hdefaults : ¬ withDefault r (defaultsName r) [] anyMap = countTooLarge :=
    decides_withDefault _ decides_anyMap
  have htemplates : ¬ withDefault r "action_templates" [] (listOf ActionTemplate.check) =
      countTooLarge := decides_withDefault _ (decides_listOf ActionTemplate.decides_check)
  have hrules : ¬ withDefault r "decision_rules" [] (listOf DecisionRule.check) =
      countTooLarge := decides_withDefault _ (decides_listOf DecisionRule.decides_check)
  have hdecision : ¬ withDefault r "default_decision" none (optional DecisionState.check) =
      countTooLarge := decides_withDefault _ (decides_optional DecisionState.decides_check)
  have hguard : ¬ withDefault r "guard" none (optional Guard.check) = countTooLarge :=
    decides_withDefault _ (decides_optional Guard.decides_check)
  simp only [checkFields, seq_eq_countTooLarge_iff, map_eq_countTooLarge_iff, htext, htexts, htype,
    hdefaults, htemplates, hrules, hdecision, hguard, false_or, or_false]

/-- **The check of a policy stops exactly at an expression that cannot be counted.** -/
theorem check_eq_countTooLarge_iff {v : Json} : check v = countTooLarge ↔ IsUncountable v := by
  cases v with
  | object r =>
      rw [check, object, checkFields_eq_countTooLarge_iff, withDefault, get?_upgrade_patterns]
      cases hp : Record.get? r "patterns" with
      | none => simp [IsUncountable, hp]
      | some w =>
          rw [under_eq_countTooLarge_iff, listOf_eq_countTooLarge_iff]
          simp only [PatternSpec.check_eq_countTooLarge_iff]
          constructor
          · rintro ⟨items, rfl, h⟩
            exact ⟨r, items, rfl, hp, h⟩
          · rintro ⟨_, items, ⟨rfl⟩, hitems, h⟩
            exact ⟨items, Option.some.inj (hp.symm.trans hitems), h⟩
  | _ => simp [check, object, fault, IsUncountable]

end Policy
end Triage
