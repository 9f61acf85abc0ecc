import Triage.Policy.Basic
import Triage.Proofs.Schema
import Triage.Rules

/-!
# When deciding fails

Deciding gives one decision, whatever a policy's conditions are, except where it comes to compile an
expression that cannot be dealt with. A malformed expression is no such one: it never holds. What is
left are repetition counts that are too large or too long and flags that contradict each other.

`Rules.Trips` says when the rules of a policy come to such an expression: the rules before it did
not hold, the fields before it satisfied their predicates, and its own field is there to be
searched. `decides_iff` is the result: deciding gives a decision exactly where that does not happen.
The inductions are over the conditions and over the rules, in the order in which they are tried.
-/

namespace Triage

namespace Predicate

variable {spec value : Json} {expression text : String} {fault : Regex.Fault}

/-- Only one form of a predicate is a search. -/
theorem ofSpec_eq_searches_iff :
    ofSpec spec = .searches expression ↔ spec = .object [("matches", .string expression)] := by
  constructor
  · intro h
    unfold ofSpec at h
    split at h
    · cases h
    · rename_i operator operand
      unfold ofOperator? at h
      split at h
      · cases h
      · split at h <;> cases h
      · cases h
      · cases h
      · cases h
      · simp only [Option.getD_some, searches.injEq] at h
        rw [h]
      · cases h
    · split at h <;> cases h
  · rintro rfl
    rfl

theorem found_eq_error_iff :
    found expression text = .error fault ↔
      Regex.compile false expression = .error fault ∧ fault ≠ .malformed := by
  unfold found
  split
  · rename_i pattern hpattern
    simp [hpattern]
  · rename_i hmalformed
    rw [hmalformed]
    constructor
    · intro h
      cases h
    · rintro ⟨h, hne⟩
      exact absurd (Except.error.inj h).symm hne
  · rename_i e hne he
    rw [he]
    constructor
    · intro h
      obtain rfl := Except.error.inj h
      exact ⟨rfl, hne⟩
    · rintro ⟨h, _⟩
      rw [Except.error.inj h]

/-- A predicate fails only as a search, of a field that is there, for an expression at fault. -/
theorem holds_eq_error_iff :
    (ofSpec spec).holds value = .error fault ↔
      ∃ expression, spec = .object [("matches", .string expression)] ∧ value.isNull = false ∧
        Regex.compile false expression = .error fault ∧ fault ≠ .malformed := by
  simp only [← ofSpec_eq_searches_iff]
  cases ofSpec spec with
  | searches expression =>
      rw [holds]
      cases hv : value.isNull with
      | true => simp
      | false => simp [found_eq_error_iff]
  | _ => simp [holds]

end Predicate

/-- Trying the fields of a condition in order comes to an expression at fault. -/
inductive ConditionTrips (fields : Record) (fault : Regex.Fault) : Record → Prop where
  | here {name expression : String} {rest : Record} :
      (fields.getD name).isNull = false → Regex.compile false expression = .error fault →
      fault ≠ .malformed →
      ConditionTrips fields fault ((name, .object [("matches", .string expression)]) :: rest)
  | later {name : String} {spec : Json} {rest : Record} :
      (Predicate.ofSpec spec).holds (fields.getD name) = .ok true →
      ConditionTrips fields fault rest → ConditionTrips fields fault ((name, spec) :: rest)

theorem conditionHolds_eq_error_iff {condition fields : Record} {fault : Regex.Fault} :
    conditionHolds condition fields = .error fault ↔ ConditionTrips fields fault condition := by
  induction condition with
  | nil =>
      constructor
      · intro h
        cases h
      · intro h
        cases h
  | cons field rest ih =>
      obtain ⟨name, spec⟩ := field
      rw [conditionHolds, bind_eq_error_iff]
      constructor
      · rintro (hp | ⟨holds, hp, h⟩)
        · obtain ⟨expression, rfl, hv, hc, hne⟩ := Predicate.holds_eq_error_iff.mp hp
          exact .here hv hc hne
        · -- a field that does not satisfy its predicate ends the condition without a fault
          cases holds with
          | false => cases h
          | true => exact .later hp (ih.mp h)
      · intro h
        cases h with
        | here hv hc hne => exact .inl (Predicate.holds_eq_error_iff.mpr ⟨_, rfl, hv, hc, hne⟩)
        | later hp hrest => exact .inr ⟨true, hp, ih.mpr hrest⟩

namespace Rules

/-- Trying rules in order comes to an expression at fault. -/
inductive Trips (fields : Record) (fault : Regex.Fault) : List DecisionRule → Prop where
  | here {rule : DecisionRule} {rest : List DecisionRule} :
      ConditionTrips fields fault rule.condition → Trips fields fault (rule :: rest)
  | later {rule : DecisionRule} {rest : List DecisionRule} :
      conditionHolds rule.condition fields = .ok false → Trips fields fault rest →
      Trips fields fault (rule :: rest)

variable {fields : Record} {fault : Regex.Fault}

theorem firstHolding_eq_error_iff {rules : List DecisionRule} (i : Nat) :
    firstHolding fields i rules = .error fault ↔ Trips fields fault rules := by
  induction rules generalizing i with
  | nil =>
      constructor
      · intro h
        cases h
      · intro h
        cases h
  | cons rule rest ih =>
      rw [firstHolding, bind_eq_error_iff, conditionHolds_eq_error_iff]
      constructor
      · rintro (ht | ⟨holds, hc, h⟩)
        · exact .here ht
        · -- a rule that holds is the last one tried
          cases holds with
          | true => cases h
          | false => exact .later hc ((ih (i + 1)).mp h)
      · intro h
        cases h with
        | here ht => exact .inl ht
        | later hc hrest => exact .inr ⟨false, hc, (ih (i + 1)).mpr hrest⟩

theorem evaluate_eq_error_iff {policy : Policy} :
    evaluate policy fields = .error fault ↔ Trips fields fault policy.decisionRules := by
  rw [evaluate, bind_eq_error_iff, firstHolding_eq_error_iff]
  constructor
  · rintro (ht | ⟨first, -, h⟩)
    · exact ht
    · -- once the rules have been tried, all that is left is to put the decision into words
      rcases first with _ | ⟨i, rule⟩
      · cases hd : policy.defaultDecision with
        | none => simp only [hd] at h; cases h
        | some state => simp only [hd] at h; cases h
      · cases h
  · exact .inl

theorem decide_eq_error_iff {alert : Alert} {policy : Option Policy} :
    decide alert policy = .error fault ↔
      ∃ p, policy = some p ∧ Trips alert.fields fault p.decisionRules := by
  cases policy with
  | none => simp [decide]
  | some p => simp [decide, evaluate_eq_error_iff]

/-- **Deciding gives a decision unless the rules come to an expression at fault.** -/
theorem decides_iff (alert : Alert) (policy : Option Policy) :
    (∃ d : Decision, decide alert policy = .ok d) ↔
      ∀ (p : Policy) (fault : Regex.Fault),
        policy = some p → ¬ Trips alert.fields fault p.decisionRules := by
  constructor
  · rintro ⟨d, hd⟩ p fault hp ht
    rw [decide_eq_error_iff.mpr ⟨p, hp, ht⟩] at hd
    cases hd
  · intro h
    cases hd : decide alert policy with
    | ok d => exact ⟨d, rfl⟩
    | error fault =>
        obtain ⟨p, hp, ht⟩ := decide_eq_error_iff.mp hd
        exact absurd ht (h p fault hp)

/-- A policy that is accepted though the expression of its rule repeats something too often. -/
def uncountable : Json := .object [
  ("alert_type", .string "a"),
  ("decision_rules", .array [.object [
    ("condition", .object [
      ("instance_name", .object [("matches", .string "v\x7b4294967295\x7d")])]),
    ("decision", .string "AUTO_REPLACE")]])]

/-- An alert with the field that the rule of `uncountable` looks at. -/
def named : Json := .object [
  ("alert_type", .string "a"), ("project_id", .null), ("instance_name", .string "vm-1"),
  ("metric_labels", .object []), ("confidence", .float (Binary64.ofDecimal false 9 (-1))),
  ("missing_fields", .array []), ("parse_method", .string "policy")]

/-- The fault that deciding comes to, if it comes to one. -/
def fault? : Except Regex.Fault Decision → Option Regex.Fault
  | .error fault => some fault
  | .ok _ => none

theorem decide_uncountable :
    ∃ (policy : Policy) (alert : Alert),
      Policy.check uncountable = .valid policy ∧ Alert.check named = .valid alert ∧
        decide alert (some policy) = .error .countTooLarge := by
  have hrun : ((Policy.check uncountable).toOption.bind fun policy =>
      (Alert.check named).toOption.bind fun alert => fault? (decide alert (some policy))) =
        some .countTooLarge := by decide +kernel
  obtain ⟨policy, hpolicy, hrun⟩ := Option.bind_eq_some_iff.mp hrun
  obtain ⟨alert, halert, hrun⟩ := Option.bind_eq_some_iff.mp hrun
  refine ⟨policy, alert, Checked.toOption_eq_some_iff.mp hpolicy,
    Checked.toOption_eq_some_iff.mp halert, ?_⟩
  cases hd : decide alert (some policy) with
  | error fault => rw [hd] at hrun; rw [Option.some.inj hrun]
  | ok d => rw [hd] at hrun; cases hrun

end Rules
end Triage
