import Triage.Proofs.Captured
import Triage.Proofs.Condition
import Triage.Proofs.Groups
import Triage.Proofs.Numeral
import Triage.Proofs.Policy

/-!
# What a pattern extracts

A pattern that is found in a text lays two rows of captured texts on one record: those of its named
groups and behind them those of the groups that it maps to fields. The rows may have names in common,
a group may have taken no part in the match, and several fields may share a group. What comes out is
said field by field (`Extraction.isExact`): a field is there exactly where one of its groups took
part, and the mapped group comes before the named one.

The record is built by setting one field after the other, so the last group counts that took part.
Within one row no name is given twice: a map has no name twice, and neither have the groups of an
expression that can be read (`Regex.nodup_names_of_compile`). A captured text can therefore be
overwritten only by the other row. That does not hide it when it is no number: each text is read
before it is set, and one that will be overwritten is read like the others.
-/

namespace Triage

namespace Regex

/-- What a group has captured stands in the text. -/
theorem Match.occurs_of_group? {m : Match} {text raw : String} {index : Nat}
    (h : m.group? text index = some raw) : raw.toList <:+: text.toList := by
  have hslice (a n : Nat) : (text.toList.drop a).take n <:+: text.toList :=
    (List.take_prefix n _).isInfix.trans (List.drop_suffix a _).isInfix
  unfold group? at h
  dsimp only at h
  split at h
  · rw [← Option.some.inj h, String.toList_ofList]
    exact hslice _ _
  · obtain ⟨⟨a, b⟩, -, rfl⟩ := Option.map_eq_some_iff.mp h
    rw [String.toList_ofList]
    exact hslice _ _

end Regex

/-- A checked pattern maps no field twice, if none was given twice. -/
theorem PatternSpec.nodup_of_ofParts {source : String} {captures : List (String × Int)}
    {q : PatternSpec} (hn : (captures.map Prod.fst).Nodup) (h : ofParts source captures = .valid q) :
    (q.captures.map Prod.fst).Nodup := by
  obtain ⟨-, rfl⟩ := ofParts_eq_valid_iff.mp h
  rwa [written, signed, List.map_map] at hn

namespace Extraction

variable {capture : Nat → Option String} {targets : List (String × Nat)} {r fields : Record}
  {name raw : String} {index : Nat} {v : Json} {q : PatternSpec} {text : String}
  {m : Regex.Match}

/-! ## A captured text as a value -/

/-- The name says that the field holds a number. -/
def NamesNumber (name : String) : Prop :=
  ∃ mark ∈ ["percent", "threshold", "value"], mark.toList <:+: name.toList

theorem isNumeric_iff : isNumeric name = true ↔ NamesNumber name := by
  rw [isNumeric, numericMarks, List.any_eq_true, NamesNumber]
  simp only [Text.contains_iff]

/-- A text without its commas. -/
def withoutCommas (raw : String) : String := String.ofList (raw.toList.filter (· ≠ ','))

/-- What a field holds of a captured text: the text itself, or the number that it is when its commas
do not count. -/
inductive Holds (name raw : String) : Json → Prop where
  | text : ¬ NamesNumber name → Holds name raw (.string raw)
  | number {x : Binary64} : NamesNumber name →
      Numeral.captured? (withoutCommas raw) = some x → Holds name raw (.float x)

theorem coerce_eq_ok_iff : coerce name raw = .ok v ↔ Holds name raw v := by
  by_cases hname : NamesNumber name
  · rw [coerce, if_pos (isNumeric_iff.mpr hname), ← withoutCommas]
    constructor
    · intro h
      split at h
      · rename_i x hx
        rw [← Except.ok.inj h]
        exact .number hname hx
      · cases h
    · intro h
      cases h with
      | text hnot => exact absurd hname hnot
      | number _ hx => rw [hx]
  · have hnumeric : isNumeric name = false := by
      rw [← Bool.not_eq_true, isNumeric_iff]
      exact hname
    rw [coerce_of_not_numeric hnumeric]
    constructor
    · intro h
      rw [← Except.ok.inj h]
      exact .text hname
    · intro h
      cases h with
      | text => rfl
      | number hnumber => exact absurd hnumber hname

/-- A field holds only one thing of a text. -/
theorem Holds.unique {w : Json} (h : Holds name raw v) (h' : Holds name raw w) : v = w :=
  Except.ok.inj ((coerce_eq_ok_iff.mpr h).symm.trans (coerce_eq_ok_iff.mpr h'))

theorem coerce_fails_iff : (∃ fault, coerce name raw = .error fault) ↔
    NamesNumber name ∧ Numeral.captured? (withoutCommas raw) = none := by
  simp only [coerce_eq_error_iff, isNumeric_iff, exists_eq_left, withoutCommas]

/-! ## One row of groups -/

/-- A name whose groups took no part stays as it was. -/
theorem get?_collect_of_none (h : collect capture targets r = .ok fields)
    (hnone : ∀ index, (name, index) ∈ targets → capture index = none) :
    fields.get? name = r.get? name := by
  induction targets generalizing r with
  | nil => rw [Except.ok.inj h]
  | cons target rest ih =>
      have hrest : ∀ index, (name, index) ∈ rest → capture index = none := fun index hmem =>
        hnone index (List.mem_cons_of_mem _ hmem)
      rw [collect] at h
      split at h
      · exact ih h hrest
      · rename_i raw hraw
        obtain ⟨v, -, h⟩ := bind_eq_ok_iff.mp h
        have hne : name ≠ target.1 := by
          rintro rfl
          rw [hnone target.2 List.mem_cons_self] at hraw
          cases hraw
        rw [ih h hrest, Record.get?_set, if_neg hne]

/-- A group that took part gives its field the value. -/
theorem exists_get?_collect (hn : (targets.map Prod.fst).Nodup)
    (h : collect capture targets r = .ok fields) (hmem : (name, index) ∈ targets)
    (hraw : capture index = some raw) :
    ∃ v, Holds name raw v ∧ fields.get? name = some v := by
  induction targets generalizing r with
  | nil => cases hmem
  | cons target rest ih =>
      obtain ⟨hnew, hrest⟩ := List.nodup_cons.mp hn
      rw [collect] at h
      rcases List.mem_cons.mp hmem with rfl | hmem
      · rw [hraw] at h
        obtain ⟨v, hcoerce, h⟩ := bind_eq_ok_iff.mp h
        -- the groups behind it belong to other names
        have hnone : ∀ index, (name, index) ∈ rest → capture index = none := fun index hindex =>
          absurd (List.mem_map_of_mem hindex) hnew
        rw [get?_collect_of_none h hnone, Record.get?_set, if_pos rfl]
        exact ⟨v, coerce_eq_ok_iff.mp hcoerce, rfl⟩
      · split at h
        · exact ih hrest h hmem
        · obtain ⟨_, -, h⟩ := bind_eq_ok_iff.mp h
          exact ih hrest h hmem

/-- The names are those that were there and those with a group that took part. -/
theorem mem_names_collect_iff (h : collect capture targets r = .ok fields) :
    name ∈ fields.names ↔
      name ∈ r.names ∨ ∃ index, (name, index) ∈ targets ∧ (capture index).isSome = true := by
  induction targets generalizing r with
  | nil => simp [Except.ok.inj h]
  | cons target rest ih =>
      have hcons : (∃ index, (name, index) ∈ target :: rest ∧ (capture index).isSome = true) ↔
          (name = target.1 ∧ (capture target.2).isSome = true) ∨
            ∃ index, (name, index) ∈ rest ∧ (capture index).isSome = true := by
        simp only [List.mem_cons, Prod.ext_iff, or_and_right, exists_or]
        simp only [and_assoc, exists_and_left, exists_eq_left]
      rw [hcons]
      rw [collect] at h
      split at h
      · rename_i hnone
        rw [ih h, hnone]
        simp
      · rename_i raw hraw
        obtain ⟨v, -, h⟩ := bind_eq_ok_iff.mp h
        have hset : name ∈ (r.set target.1 v).names ↔ name ∈ r.names ∨ name = target.1 := by
          rw [Record.mem_names_iff, Record.mem_names_iff, Record.get?_set]
          split <;> simp_all
        rw [ih h, hset, hraw]
        simp [or_assoc]

/-! ## Both rows -/

/-- The captured text that is taken for a field: the mapped group comes before the named one. -/
inductive Takes (q : PatternSpec) (text : String) (m : Regex.Match) (name raw : String) : Prop where
  | mapped {index : Nat} : (name, index) ∈ q.captures → m.group? text index = some raw →
      Takes q text m name raw
  | named {index : Nat} : (∀ other, (name, other) ∈ q.captures → m.group? text other = none) →
      (name, index) ∈ q.expression.names → m.group? text index = some raw → Takes q text m name raw

/-- What is extracted comes from a match, first for the named groups and then for the mapped ones. -/
theorem rows_of_apply (h : apply q text = .ok (some fields)) :
    ∃ m named, q.expression.search? text = some m ∧
      collect (m.group? text) q.expression.names [] = .ok named ∧
      collect (m.group? text) q.captures named = .ok fields := by
  rw [apply] at h
  split at h
  · cases h
  · rename_i m hm
    obtain ⟨named, hnamed, h⟩ := bind_eq_ok_iff.mp h
    obtain ⟨all, hall, h⟩ := bind_eq_ok_iff.mp h
    cases h
    exact ⟨m, named, hm, hnamed, hall⟩

/-- **The fields are those with a group that took part.** -/
theorem mem_names_apply_iff (h : apply q text = .ok (some fields))
    (hm : q.expression.search? text = some m) :
    name ∈ fields.names ↔
      ∃ index, (name, index) ∈ q.targets ∧ (m.group? text index).isSome = true := by
  obtain ⟨m', named, hm', hnamed, hall⟩ := rows_of_apply h
  obtain rfl := Option.some.inj (hm.symm.trans hm')
  rw [mem_names_collect_iff hall, mem_names_collect_iff hnamed, PatternSpec.targets]
  simp [Record.names, or_and_right, exists_or]

/-- The text that is taken for a field gives it its value. -/
theorem get?_of_takes (hn : (q.captures.map Prod.fst).Nodup)
    (h : apply q text = .ok (some fields)) (hm : q.expression.search? text = some m)
    (htakes : Takes q text m name raw) : ∃ v, Holds name raw v ∧ fields.get? name = some v := by
  obtain ⟨m', named, hm', hnamed, hall⟩ := rows_of_apply h
  obtain rfl := Option.some.inj (hm.symm.trans hm')
  cases htakes with
  | mapped hmem hraw => exact exists_get?_collect hn hall hmem hraw
  | named hnone hmem hraw =>
      rw [get?_collect_of_none hall hnone]
      exact exists_get?_collect (Regex.nodup_names_of_compile q.compiles) hnamed hmem hraw

/-- A field that is there has been taken from a group. -/
theorem exists_takes (h : apply q text = .ok (some fields))
    (hm : q.expression.search? text = some m) (hv : fields.get? name = some v) :
    ∃ raw, Takes q text m name raw := by
  have hmem : name ∈ fields.names := Record.mem_names_iff.mpr (by simp [hv])
  obtain ⟨index, htarget, hsome⟩ := (mem_names_apply_iff h hm).mp hmem
  obtain ⟨raw, hraw⟩ := Option.isSome_iff_exists.mp hsome
  by_cases hmapped : ∃ other, (name, other) ∈ q.captures ∧ m.group? text other ≠ none
  · obtain ⟨other, hother, hne⟩ := hmapped
    obtain ⟨raw', hraw'⟩ := Option.ne_none_iff_exists'.mp hne
    exact ⟨raw', .mapped hother hraw'⟩
  · have hnone : ∀ other, (name, other) ∈ q.captures → m.group? text other = none :=
      fun other hother => Classical.byContradiction fun hne => hmapped ⟨other, hother, hne⟩
    rcases List.mem_append.mp htarget with hnamed | hcaptured
    · exact ⟨raw, .named hnone hnamed hraw⟩
    · rw [hnone index hcaptured] at hraw
      cases hraw

theorem get?_apply_iff (hn : (q.captures.map Prod.fst).Nodup)
    (h : apply q text = .ok (some fields)) (hm : q.expression.search? text = some m) :
    fields.get? name = some v ↔ ∃ raw, Takes q text m name raw ∧ Holds name raw v := by
  constructor
  · intro hv
    obtain ⟨raw, htakes⟩ := exists_takes h hm hv
    obtain ⟨w, hholds, hw⟩ := get?_of_takes hn h hm htakes
    obtain rfl := Option.some.inj (hw.symm.trans hv)
    exact ⟨raw, htakes, hholds⟩
  · rintro ⟨raw, htakes, hholds⟩
    obtain ⟨w, hw, hget⟩ := get?_of_takes hn h hm htakes
    rw [hget, hw.unique hholds]

/-- What a pattern makes of a text. -/
structure IsExact (q : PatternSpec) (text : String) : Prop where
  /-- It extracts nothing exactly where its expression, read without regard to case, is not found. -/
  none_iff : ∀ expression, Regex.compile true q.source = .ok expression →
    (apply q text = .ok none ↔ expression.search? text = none)
  /-- It fails exactly where a group that took part gives a text that is not the number asked for,
  whether or not that text would have been overwritten. -/
  fails_iff : (∃ fault, apply q text = .error fault) ↔
    ∃ m, q.expression.search? text = some m ∧ ∃ name index raw, (name, index) ∈ q.targets ∧
      m.group? text index = some raw ∧ NamesNumber name ∧
      Numeral.captured? (withoutCommas raw) = none
  /-- The fault names such a field and such a text. -/
  fault : ∀ fault, apply q text = .error fault →
    ∃ m, q.expression.search? text = some m ∧ ∃ index, (fault.name, index) ∈ q.targets ∧
      m.group? text index = some fault.raw ∧ NamesNumber fault.name ∧
      Numeral.captured? (withoutCommas fault.raw) = none
  /-- Otherwise the fields are those with a group that took part, and none is there twice. -/
  names : ∀ fields m, apply q text = .ok (some fields) → q.expression.search? text = some m →
    fields.names.Nodup ∧ ∀ name, name ∈ fields.names ↔
      ∃ index, (name, index) ∈ q.targets ∧ (m.group? text index).isSome = true
  /-- A field holds what it holds of the text that is taken for it. -/
  get?_iff : ∀ fields m, apply q text = .ok (some fields) → q.expression.search? text = some m →
    ∀ name v, fields.get? name = some v ↔ ∃ raw, Takes q text m name raw ∧ Holds name raw v
  /-- That is a piece of the whole text. -/
  occurs : ∀ m name raw, Takes q text m name raw → raw.toList <:+: text.toList
  /-- If it is made up of digits and commas, also with a point, a number is the one they write. -/
  decimal : ∀ fields m, apply q text = .ok (some fields) → q.expression.search? text = some m →
    ∀ name raw n e, Takes q text m name raw → NamesNumber name →
      Numeral.Writes (raw.toList.filter (· ≠ ',')) n e →
      fields.get? name = some (.float (Binary64.ofDecimal false n e))

/-- **What a pattern extracts is exactly what its groups have captured.** -/
theorem isExact (hn : (q.captures.map Prod.fst).Nodup) (text : String) : IsExact q text where
  none_iff := by
    intro expression hcompile
    obtain rfl := Except.ok.inj (q.compiles.symm.trans hcompile)
    rw [apply_eq_none_iff, PatternSpec.isFound, Option.isSome_eq_false_iff,
      Option.isNone_iff_eq_none]
  fails_iff := by
    simp only [Extraction.fails_iff, coerce_fails_iff, Prod.exists]
    simp only [exists_and_left]
  fault := by
    intro fault h
    obtain ⟨m, hm, ⟨name, index⟩, hmem, hraw, heq, hcoerce⟩ := fault_of_apply h
    obtain rfl : name = fault.name := heq
    obtain ⟨hname, hnone⟩ := coerce_fails_iff.mp ⟨fault, hcoerce⟩
    exact ⟨m, hm, index, hmem, hraw, hname, hnone⟩
  names := fun fields m h hm => ⟨nodup_of_apply h, fun _ => mem_names_apply_iff h hm⟩
  get?_iff := fun fields m h hm _ _ => get?_apply_iff hn h hm
  occurs := by
    intro m name raw htakes
    cases htakes with
    | mapped _ hraw => exact Regex.Match.occurs_of_group? hraw
    | named _ _ hraw => exact Regex.Match.occurs_of_group? hraw
  decimal := by
    intro fields m h hm name raw n e htakes hname hwrites
    exact (get?_apply_iff hn h hm).mpr
      ⟨raw, htakes, .number hname (Numeral.captured?_of_writes hwrites)⟩

/-- A pattern whose groups and mapped fields overlap: the whole match and two groups go to fields, one
of them to two, and two of the fields have a named group as well. -/
theorem isExact_overlapping :
    ∃ q, PatternSpec.ofParts
        "(?P<host>\\w+) at (?P<value_percent>[\\d,.]+)( of ([\\d,]+))?"
        [("host", 0), ("value_percent", 4), ("limit_value", 4), ("share", 3)] = .valid q ∧
      IsExact q "checkout at 1,250.5 of 2,000" := by
  obtain ⟨q, hq⟩ := Checked.exists_of_isValid (x := PatternSpec.ofParts
    "(?P<host>\\w+) at (?P<value_percent>[\\d,.]+)( of ([\\d,]+))?"
    [("host", 0), ("value_percent", 4), ("limit_value", 4), ("share", 3)]) (by decide +kernel)
  exact ⟨q, hq, isExact (PatternSpec.nodup_of_ofParts (by decide) hq) _⟩

end Extraction

end Triage
