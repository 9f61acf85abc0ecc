import Mathlib.Data.List.Infix
import Triage.Proofs.Rules

/-!
# What conditions accept

A condition fails closed: a rule fires only on what its author has written down in a form that is
known. `Predicate.IsForm` lists these forms and `Predicate.Accepts` says what each of them accepts,
both without a look at how predicates are read. A condition that is settled holds exactly where every
entry has one of the forms and accepts the value of its field (`conditionHolds_iff`).

The rest follows from that. One entry of another form, or with an expression that cannot be compiled,
keeps the whole condition from holding; a null is accepted by the three forms that ask for one; and
since all entries have to be satisfied, their order decides at most whether an expression at fault is
come to, and never the answer.
-/

namespace Triage

namespace Text

/-- A text is found where it stands in another one. -/
theorem occursIn_iff {needle hay : List Char} : occursIn needle hay = true ↔ needle <:+: hay := by
  induction hay with
  | nil => rw [occursIn, List.isEmpty_iff, List.infix_nil]
  | cons c rest ih =>
      rw [occursIn, Bool.or_eq_true, List.isPrefixOf_iff_prefix, ih, List.infix_cons_iff]

theorem contains_iff {hay needle : String} :
    contains hay needle = true ↔ needle.toList <:+: hay.toList := occursIn_iff

end Text

namespace Predicate

variable {spec value s : Json}

/-! ## The forms of a predicate -/

/-- The values of a document that write a predicate. -/
inductive IsForm : Json → Prop where
  | null : IsForm .null
  | scalar {s : Json} : isScalar s = true → IsForm s
  | equalsNull : IsForm (.object [("equals", .null)])
  | equals {s : Json} : isScalar s = true → IsForm (.object [("equals", s)])
  | isNull (expected : Bool) : IsForm (.object [("is_null", .bool expected)])
  | startsWith (start : String) : IsForm (.object [("starts_with", .string start)])
  | contains (fragment : String) : IsForm (.object [("contains", .string fragment)])
  | searches (expression : String) : IsForm (.object [("matches", .string expression)])

/-- What the forms accept: null where it is asked for, and otherwise a value that is not null and
whose text is as it should be. -/
inductive Accepts (value : Json) : Json → Prop where
  | null : value = .null → Accepts value .null
  | scalar {s : Json} : isScalar s = true → value ≠ .null → value.chatText = s.chatText →
      Accepts value s
  | equalsNull : value = .null → Accepts value (.object [("equals", .null)])
  | equals {s : Json} : isScalar s = true → value ≠ .null → value.chatText = s.chatText →
      Accepts value (.object [("equals", s)])
  | isNull : value = .null → Accepts value (.object [("is_null", .bool true)])
  | isPresent : value ≠ .null → Accepts value (.object [("is_null", .bool false)])
  | startsWith {start : String} : value ≠ .null → start.toList <+: value.chatText.toList →
      Accepts value (.object [("starts_with", .string start)])
  | contains {fragment : String} : value ≠ .null → fragment.toList <:+: value.chatText.toList →
      Accepts value (.object [("contains", .string fragment)])
  | searches {expression : String} {pattern : Regex.Pattern} {m : Regex.Match} : value ≠ .null →
      Regex.compile false expression = .ok pattern → pattern.search? value.chatText = some m →
      Accepts value (.object [("matches", .string expression)])

theorem Accepts.isForm (h : Accepts value spec) : IsForm spec := by
  cases h with
  | null => exact .null
  | scalar hs => exact .scalar hs
  | equalsNull => exact .equalsNull
  | equals hs => exact .equals hs
  | isNull => exact .isNull true
  | isPresent => exact .isNull false
  | startsWith => exact .startsWith _
  | contains => exact .contains _
  | searches => exact .searches _

/-! ## What is read from them -/

theorem ofSpec_scalar (h : isScalar s = true) : ofSpec s = equals s := by
  cases s with
  | null | array | object => cases h
  | _ => rfl

theorem ofSpec_equals (h : isScalar s = true) : ofSpec (.object [("equals", s)]) = equals s := by
  cases s with
  | null | array | object => cases h
  | _ => rfl

/-- What has none of the forms is not recognised. -/
theorem ofSpec_of_not_isForm (h : ¬ IsForm spec) : ofSpec spec = unrecognized spec := by
  -- each branch that recognises something goes with one of the forms
  unfold ofSpec
  split
  · exact absurd .null h
  · rename_i operator operand
    unfold ofOperator?
    split
    · exact absurd .equalsNull h
    · split
      · rename_i hs
        exact absurd (.equals hs) h
      · rfl
    · exact absurd (.isNull _) h
    · exact absurd (.startsWith _) h
    · exact absurd (.contains _) h
    · exact absurd (.searches _) h
    · rfl
  · split
    · rename_i hs
      exact absurd (.scalar hs) h
    · rfl

/-! ## What the tests ask for -/

theorem holds_equals_iff : (equals s).holds value = .ok true ↔
    value ≠ .null ∧ value.chatText = s.chatText := by
  simp [holds, Json.isNull_eq_false_iff]

theorem holds_isNull_iff {expected : Bool} :
    (isNull expected).holds value = .ok true ↔ (expected = true ↔ value = .null) := by
  cases expected with
  | true => simp [holds, Json.isNull_iff]
  | false => simp [holds, Json.isNull_eq_false_iff]

theorem holds_startsWith_iff {start : String} : (startsWith start).holds value = .ok true ↔
    value ≠ .null ∧ start.toList <+: value.chatText.toList := by
  simp [holds, Json.isNull_eq_false_iff, Text.startsWith_iff]

theorem holds_contains_iff {fragment : String} : (contains fragment).holds value = .ok true ↔
    value ≠ .null ∧ fragment.toList <:+: value.chatText.toList := by
  simp [holds, Json.isNull_eq_false_iff, Text.contains_iff]

theorem found_eq_true_iff {expression text : String} :
    found expression text = .ok true ↔ ∃ pattern, Regex.compile false expression = .ok pattern ∧
      ∃ m, pattern.search? text = some m := by
  rw [found]
  split
  · rename_i pattern hpattern
    simp [hpattern, Option.isSome_iff_exists]
  · rename_i hmalformed
    simp [hmalformed]
  · rename_i fault hfault
    simp [hfault]

theorem holds_searches_iff {expression : String} :
    (searches expression).holds value = .ok true ↔
      value ≠ .null ∧ ∃ pattern, Regex.compile false expression = .ok pattern ∧
        ∃ m, pattern.search? value.chatText = some m := by
  rw [← Json.isNull_eq_false_iff, holds, ← found_eq_true_iff]
  cases value.isNull with
  | true => simp
  | false => simp

/-- **A predicate holds of a value exactly where it has one of the forms and accepts the value.** -/
theorem holds_iff : (ofSpec spec).holds value = .ok true ↔ Accepts value spec := by
  constructor
  · intro h
    by_cases hform : IsForm spec
    · cases hform with
      | null => exact .null ((holds_isNull_iff.mp h).mp rfl)
      | scalar hs =>
          obtain ⟨hvalue, htext⟩ := holds_equals_iff.mp (ofSpec_scalar hs ▸ h)
          exact .scalar hs hvalue htext
      | equalsNull => exact .equalsNull ((holds_isNull_iff.mp h).mp rfl)
      | equals hs =>
          obtain ⟨hvalue, htext⟩ := holds_equals_iff.mp (ofSpec_equals hs ▸ h)
          exact .equals hs hvalue htext
      | isNull expected =>
          have hexpected := holds_isNull_iff.mp h
          cases expected with
          | true => exact .isNull (hexpected.mp rfl)
          | false => exact .isPresent fun hvalue => nomatch hexpected.mpr hvalue
      | startsWith start =>
          obtain ⟨hvalue, hstart⟩ := holds_startsWith_iff.mp h
          exact .startsWith hvalue hstart
      | contains fragment =>
          obtain ⟨hvalue, hfragment⟩ := holds_contains_iff.mp h
          exact .contains hvalue hfragment
      | searches expression =>
          obtain ⟨hvalue, pattern, hpattern, m, hm⟩ := holds_searches_iff.mp h
          exact .searches hvalue hpattern hm
    · rw [ofSpec_of_not_isForm hform] at h
      cases h
  · intro h
    cases h with
    | null hvalue => exact holds_isNull_iff.mpr (iff_of_true rfl hvalue)
    | scalar hs hvalue htext => exact ofSpec_scalar hs ▸ holds_equals_iff.mpr ⟨hvalue, htext⟩
    | equalsNull hvalue => exact holds_isNull_iff.mpr (iff_of_true rfl hvalue)
    | equals hs hvalue htext => exact ofSpec_equals hs ▸ holds_equals_iff.mpr ⟨hvalue, htext⟩
    | isNull hvalue => exact holds_isNull_iff.mpr (iff_of_true rfl hvalue)
    | isPresent hvalue => exact holds_isNull_iff.mpr (iff_of_false (by decide) hvalue)
    | startsWith hvalue hstart => exact holds_startsWith_iff.mpr ⟨hvalue, hstart⟩
    | contains hvalue hfragment => exact holds_contains_iff.mpr ⟨hvalue, hfragment⟩
    | searches hvalue hpattern hm =>
        exact holds_searches_iff.mpr ⟨hvalue, _, hpattern, _, hm⟩

/-- Null is accepted by the three forms that ask for it. -/
theorem accepts_null_iff : Accepts .null spec ↔
    spec = .null ∨ spec = .object [("equals", .null)] ∨
      spec = .object [("is_null", .bool true)] := by
  constructor
  · intro h
    cases h with
    | null => exact .inl rfl
    | equalsNull => exact .inr (.inl rfl)
    | isNull => exact .inr (.inr rfl)
    | _ => contradiction
  · rintro (rfl | rfl | rfl)
    · exact .null rfl
    · exact .equalsNull rfl
    · exact .isNull rfl

/-- Asking for a search, one has to give an expression that can be compiled. -/
theorem Accepts.compiles {expression : String}
    (h : Accepts value (.object [("matches", .string expression)])) :
    ∃ pattern, Regex.compile false expression = .ok pattern := by
  obtain ⟨-, pattern, hpattern, -⟩ := holds_searches_iff.mp (holds_iff.mpr h)
  exact ⟨pattern, hpattern⟩

end Predicate

section Condition

variable {condition fields : Record}

/-- **A condition holds exactly where every entry accepts the value of its field.** -/
theorem conditionHolds_eq_true_iff : conditionHolds condition fields = .ok true ↔
    ∀ entry ∈ condition, Predicate.Accepts (fields.getD entry.1) entry.2 := by
  induction condition with
  | nil => exact iff_of_true rfl fun _ hentry => nomatch hentry
  | cons field rest ih =>
      obtain ⟨name, spec⟩ := field
      rw [conditionHolds, bind_eq_ok_iff, List.forall_mem_cons, ← ih, ← Predicate.holds_iff]
      constructor
      · rintro ⟨holds, hfield, hrest⟩
        -- an entry that is not satisfied ends the condition
        cases holds with
        | true => exact ⟨hfield, hrest⟩
        | false => cases hrest
      · rintro ⟨hfield, hrest⟩
        exact ⟨true, hfield, hrest⟩

/-- Entries that are read alike can stand for each other. -/
theorem conditionHolds_congr {spec spec' : Json}
    (h : Predicate.ofSpec spec = Predicate.ofSpec spec') (before after : Record) (name : String) :
    conditionHolds (before ++ (name, spec) :: after) fields =
      conditionHolds (before ++ (name, spec') :: after) fields := by
  induction before with
  | nil => rw [List.nil_append, List.nil_append, conditionHolds, conditionHolds, h]
  | cons field rest ih => rw [List.cons_append, List.cons_append, conditionHolds, conditionHolds, ih]

/-- How conditions fail closed, over the fields of an alert. -/
structure FailsClosed (fields : Record) : Prop where
  /-- A condition that is settled holds exactly where every entry has one of the forms of a predicate
  and accepts the value of its field. -/
  holds_iff : ∀ {condition : Record} {holds : Bool}, conditionHolds condition fields = .ok holds →
    (holds = true ↔ ∀ entry ∈ condition,
      Predicate.IsForm entry.2 ∧ Predicate.Accepts (fields.getD entry.1) entry.2)
  /-- Whatever its other entries are, it does not hold with an entry of another form. -/
  other_form : ∀ {condition : Record} {entry : String × Json}, entry ∈ condition →
    ¬ Predicate.IsForm entry.2 → conditionHolds condition fields ≠ .ok true
  /-- It does not hold with an expression that cannot be compiled either. -/
  invalid : ∀ {condition : Record} {name expression : String} {fault : Regex.Fault},
    (name, .object [("matches", .string expression)]) ∈ condition →
    Regex.compile false expression = .error fault → conditionHolds condition fields ≠ .ok true
  /-- A field that is null or absent is accepted by the three forms that ask for null, and by no other
  entry of a condition. -/
  null_iff : ∀ {name : String} {spec : Json}, (fields.getD name).isNull = true →
    ((∃ condition, (name, spec) ∈ condition ∧ conditionHolds condition fields = .ok true) ↔
      spec = .null ∨ spec = .object [("equals", .null)] ∨
        spec = .object [("is_null", .bool true)])
  /-- A value compared by its text is as good as an equation with it. -/
  equals_scalar : ∀ {s : Json}, Predicate.isScalar s = true →
    ∀ (before after : Record) (name : String),
      conditionHolds (before ++ (name, .object [("equals", s)]) :: after) fields =
        conditionHolds (before ++ (name, s) :: after) fields
  /-- The order of the entries does not change an answer. -/
  perm : ∀ {condition condition' : Record} {holds holds' : Bool}, condition.Perm condition' →
    conditionHolds condition fields = .ok holds → conditionHolds condition' fields = .ok holds' →
    holds = holds'

/-- **Conditions fail closed.** -/
theorem failsClosed (fields : Record) : FailsClosed fields where
  holds_iff := by
    intro condition holds h
    have hholds : holds = true ↔ conditionHolds condition fields = .ok true := by
      rw [h, Except.ok.injEq]
    rw [hholds, conditionHolds_eq_true_iff]
    exact forall₂_congr fun _ _ => ⟨fun haccepts => ⟨haccepts.isForm, haccepts⟩, And.right⟩
  other_form := by
    intro condition entry hentry hform h
    exact hform (conditionHolds_eq_true_iff.mp h entry hentry).isForm
  invalid := by
    intro condition name expression fault hentry hfault h
    obtain ⟨pattern, hpattern⟩ := (conditionHolds_eq_true_iff.mp h _ hentry).compiles
    rw [hfault] at hpattern
    cases hpattern
  null_iff := by
    intro name spec hnull
    rw [Json.isNull_iff] at hnull
    rw [← Predicate.accepts_null_iff, ← hnull]
    constructor
    · rintro ⟨condition, hentry, h⟩
      exact conditionHolds_eq_true_iff.mp h _ hentry
    · intro haccepts
      refine ⟨[(name, spec)], List.mem_singleton_self _, conditionHolds_eq_true_iff.mpr ?_⟩
      intro entry hentry
      rwa [List.mem_singleton.mp hentry]
  equals_scalar := by
    intro s hs before after name
    refine conditionHolds_congr ?_ before after name
    rw [Predicate.ofSpec_equals hs, Predicate.ofSpec_scalar hs]
  perm := by
    intro condition condition' holds holds' hperm h h'
    -- whether a condition holds is a matter of its entries alone, whereas the fault that another
    -- order may come to is not
    have hsame : conditionHolds condition fields = .ok true ↔
        conditionHolds condition' fields = .ok true := by
      rw [conditionHolds_eq_true_iff, conditionHolds_eq_true_iff]
      exact forall_congr' fun entry => by rw [hperm.mem_iff]
    rw [h, h', Except.ok.injEq, Except.ok.injEq] at hsame
    exact Bool.eq_iff_iff.mpr hsame

end Condition
end Triage
