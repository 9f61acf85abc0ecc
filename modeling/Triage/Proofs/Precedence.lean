import Mathlib.Order.Bounds.Basic
import Triage.Proofs.Rules

/-!
# The first rule decides

Rules are tried in order until one holds. `IsFirst` says of a rule that it is that one: it holds, and
those in front of it have been tried and do not. What the rules give is a matter of this place alone
(`evaluate_of_isFirst`): the rules behind it are not looked at, and those in front of it count only for
the index. Where no rule holds, the policy's default decides, and without a default nothing is done
(`evaluate_of_forall_missed`).

A resource is therefore replaced without asking only where the first rule that holds says so, or the
default where none does.
-/

namespace Triage.Rules

variable {fields : Record} {rules before kept after : List DecisionRule} {rule : DecisionRule}
  {policy : Policy} {d : Decision}

/-- The rule holds, and none of those in front of it does. -/
structure IsFirst (fields : Record) (before : List DecisionRule) (rule : DecisionRule) : Prop where
  missed : ∀ other ∈ before, conditionHolds other.condition fields = .ok false
  holds : conditionHolds rule.condition fields = .ok true

/-- The rule at the index holds. -/
def HoldsAt (fields : Record) (rules : List DecisionRule) (i : Nat) : Prop :=
  ∃ rule, rules[i]? = some rule ∧ conditionHolds rule.condition fields = .ok true

/-- With some of the rules in front of it taken out, a rule is still the first one. -/
theorem IsFirst.sublist (h : IsFirst fields before rule) (hkept : kept.Sublist before) :
    IsFirst fields kept rule :=
  ⟨fun other hother => h.missed other (hkept.mem hother), h.holds⟩

theorem isFirst_cons {other : DecisionRule} : IsFirst fields (other :: before) rule ↔
    conditionHolds other.condition fields = .ok false ∧ IsFirst fields before rule := by
  constructor
  · intro h
    obtain ⟨hother, hbefore⟩ := List.forall_mem_cons.mp h.missed
    exact ⟨hother, hbefore, h.holds⟩
  · rintro ⟨hother, h⟩
    exact ⟨List.forall_mem_cons.mpr ⟨hother, h.missed⟩, h.holds⟩

/-! ## Trying the rules in order -/

theorem firstHolding_of_isFirst (h : IsFirst fields before rule) (after : List DecisionRule)
    (i : Nat) : firstHolding fields i (before ++ rule :: after) =
      .ok (some (i + before.length, rule)) := by
  induction before generalizing i with
  | nil =>
      rw [List.nil_append, firstHolding, h.holds]
      rfl
  | cons other rest ih =>
      obtain ⟨hother, hrest⟩ := isFirst_cons.mp h
      have hlength : i + (other :: rest).length = i + 1 + rest.length := by
        rw [List.length_cons]
        omega
      rw [List.cons_append, firstHolding, hother, hlength]
      exact ih hrest (i + 1)

theorem firstHolding_of_forall_missed
    (h : ∀ rule ∈ rules, conditionHolds rule.condition fields = .ok false) (i : Nat) :
    firstHolding fields i rules = .ok none := by
  induction rules generalizing i with
  | nil => rfl
  | cons rule rest ih =>
      obtain ⟨hrule, hrest⟩ := List.forall_mem_cons.mp h
      rw [firstHolding, hrule]
      exact ih hrest (i + 1)

/-- Trying that comes to an end has met the first rule that holds, or all rules and none that does. -/
theorem isFirst_or_forall_missed {i : Nat} {first : Option (Nat × DecisionRule)}
    (h : firstHolding fields i rules = .ok first) :
    (∃ before rule after, rules = before ++ rule :: after ∧ IsFirst fields before rule) ∨
      ∀ rule ∈ rules, conditionHolds rule.condition fields = .ok false := by
  induction rules generalizing i with
  | nil => exact .inr fun _ hrule => nomatch hrule
  | cons rule rest ih =>
      rw [firstHolding] at h
      obtain ⟨holds, hrule, h⟩ := bind_eq_ok_iff.mp h
      -- a rule that holds is the last one tried, and one that does not stands in front of the first
      cases holds with
      | true => exact .inl ⟨[], rule, rest, rfl, fun _ hother => (nomatch hother), hrule⟩
      | false =>
          rcases ih h with ⟨before, first, after, rfl, hfirst⟩ | hmissed
          · exact .inl ⟨rule :: before, first, after, rfl, isFirst_cons.mpr ⟨hrule, hfirst⟩⟩
          · exact .inr (List.forall_mem_cons.mpr ⟨hrule, hmissed⟩)

/-! ## What the rules give -/

/-- **The first rule that holds decides.** -/
theorem evaluate_of_isFirst (hrules : policy.decisionRules = before ++ rule :: after)
    (h : IsFirst fields before rule) :
    ∃ d, evaluate policy fields = .ok d ∧ d.state = rule.decision ∧
      d.ruleIndex = some (before.length : Int) := by
  rw [evaluate, hrules, firstHolding_of_isFirst h, Nat.zero_add]
  exact ⟨_, rfl, rfl, rfl⟩

/-- **Where none holds, the default decides.** -/
theorem evaluate_of_forall_missed
    (h : ∀ rule ∈ policy.decisionRules, conditionHolds rule.condition fields = .ok false) :
    ∃ d, evaluate policy fields = .ok d ∧ d.state = policy.defaultDecision.getD .noAction ∧
      d.ruleIndex = none := by
  rw [evaluate, firstHolding_of_forall_missed h]
  cases policy.defaultDecision with
  | none => exact ⟨_, rfl, rfl, rfl⟩
  | some state => exact ⟨_, rfl, rfl, rfl⟩

/-- A policy that gives a decision has done so in one of the two ways. -/
theorem cases_of_evaluate (h : evaluate policy fields = .ok d) :
    (∃ before rule after, policy.decisionRules = before ++ rule :: after ∧
      IsFirst fields before rule ∧ d.state = rule.decision ∧
      d.ruleIndex = some (before.length : Int)) ∨
    ((∀ rule ∈ policy.decisionRules, conditionHolds rule.condition fields = .ok false) ∧
      d.state = policy.defaultDecision.getD .noAction ∧ d.ruleIndex = none) := by
  have htried := h
  rw [evaluate] at htried
  obtain ⟨first, hfirst, -⟩ := bind_eq_ok_iff.mp htried
  rcases isFirst_or_forall_missed hfirst with ⟨before, rule, after, hrules, hrule⟩ | hmissed
  · obtain ⟨d', hd', hstate, hindex⟩ := evaluate_of_isFirst hrules hrule
    obtain rfl := Except.ok.inj (h.symm.trans hd')
    exact .inl ⟨before, rule, after, hrules, hrule, hstate, hindex⟩
  · obtain ⟨d', hd', hstate, hindex⟩ := evaluate_of_forall_missed hmissed
    obtain rfl := Except.ok.inj (h.symm.trans hd')
    exact .inr ⟨hmissed, hstate, hindex⟩

/-- The rule that a decision points at is the first one that holds. -/
theorem isFirst_of_ruleIndex (h : evaluate policy fields = .ok d) {i : Nat}
    (hi : d.ruleIndex = some (i : Int)) (hrule : policy.decisionRules[i]? = some rule) :
    IsFirst fields (policy.decisionRules.take i) rule ∧ d.state = rule.decision := by
  rcases cases_of_evaluate h with ⟨before, first, after, hrules, hfirst, hstate, hindex⟩ |
    ⟨-, -, hindex⟩
  · rw [hi, Option.some.injEq, Int.natCast_inj] at hindex
    subst hindex
    obtain rfl : first = rule := by simpa [hrules] using hrule
    rw [hrules, List.take_left]
    exact ⟨hfirst, hstate⟩
  · rw [hi] at hindex
    cases hindex

/-! ## Least indices -/

/-- The place of the first rule that holds is the least index at which one does. -/
theorem isLeast_of_isFirst (h : IsFirst fields before rule) (after : List DecisionRule) :
    IsLeast {i | HoldsAt fields (before ++ rule :: after) i} before.length := by
  refine ⟨⟨rule, by simp, h.holds⟩, ?_⟩
  rintro i ⟨other, hother, hholds⟩
  -- a rule at a smaller index is one of those that have been missed
  by_contra hlt
  have hbefore : before[i]? = some other := by
    rwa [List.getElem?_append_left (by omega)] at hother
  rw [h.missed other (List.mem_of_getElem? hbefore)] at hholds
  cases hholds

theorem not_holdsAt_of_forall_missed
    (h : ∀ rule ∈ rules, conditionHolds rule.condition fields = .ok false) (i : Nat) :
    ¬ HoldsAt fields rules i := by
  rintro ⟨rule, hrule, hholds⟩
  rw [h rule (List.mem_of_getElem? hrule)] at hholds
  cases hholds

/-- How the decision about an alert follows the first rule that holds. -/
structure FollowsFirst (alert : Alert) : Prop where
  /-- Without a policy nothing is done. -/
  unattached : ∃ d, decide alert none = .ok d ∧ d.state = .noAction ∧ d.ruleIndex = none
  /-- The index is the least one of a rule that holds of the alert's fields. -/
  index_iff : ∀ {policy : Policy} {d : Decision}, decide alert (some policy) = .ok d → ∀ i : Nat,
    d.ruleIndex = some (i : Int) ↔ IsLeast {i | HoldsAt alert.fields policy.decisionRules i} i
  /-- The rule there gives the decision. -/
  fired : ∀ {policy : Policy} {d : Decision}, decide alert (some policy) = .ok d →
    ∀ {i : Nat} {rule : DecisionRule}, d.ruleIndex = some (i : Int) →
      policy.decisionRules[i]? = some rule → d.state = rule.decision
  /-- Where no rule holds there is no index, and the default gives the decision. -/
  unfired : ∀ {policy : Policy} {d : Decision}, decide alert (some policy) = .ok d →
    (∀ i, ¬ HoldsAt alert.fields policy.decisionRules i) →
      d.ruleIndex = none ∧ d.state = policy.defaultDecision.getD .noAction
  /-- Other rules behind the one that fired, and fewer in front of it, change at most its index. -/
  frame : ∀ {policy : Policy} {d : Decision}, decide alert (some policy) = .ok d →
    ∀ {i : Nat} {rule : DecisionRule}, d.ruleIndex = some (i : Int) →
      policy.decisionRules[i]? = some rule →
      ∀ {kept : List DecisionRule}, kept.Sublist (policy.decisionRules.take i) →
      ∀ after : List DecisionRule, ∃ d',
        decide alert (some { policy with decisionRules := kept ++ rule :: after }) = .ok d' ∧
          d'.state = d.state ∧ d'.ruleIndex = some (kept.length : Int)
  /-- A resource is replaced without asking only if the first rule that holds says so, or the default
  where none does. -/
  replaced : ∀ {attached : Option Policy} {d : Decision}, decide alert attached = .ok d →
    d.state = .autoReplace → ∃ policy, attached = some policy ∧
      ((∃ i rule, IsLeast {i | HoldsAt alert.fields policy.decisionRules i} i ∧
          policy.decisionRules[i]? = some rule ∧ rule.decision = .autoReplace) ∨
        ((∀ i, ¬ HoldsAt alert.fields policy.decisionRules i) ∧
          policy.defaultDecision = some .autoReplace))

/-- **The first rule that holds decides, and the default where none does.** -/
theorem followsFirst (alert : Alert) : FollowsFirst alert where
  unattached := ⟨_, rfl, rfl, rfl⟩
  index_iff := by
    intro policy d h i
    rcases cases_of_evaluate h with ⟨before, rule, after, hrules, hrule, -, hindex⟩ |
      ⟨hmissed, -, hindex⟩
    · have hleast := isLeast_of_isFirst hrule after
      rw [hrules, hindex, Option.some.injEq, Int.natCast_inj]
      constructor
      · rintro rfl
        exact hleast
      · exact hleast.unique
    · rw [hindex]
      refine iff_of_false (by simp) fun hleast => ?_
      exact not_holdsAt_of_forall_missed hmissed i hleast.1
  fired := fun h _ _ hi hrule => (isFirst_of_ruleIndex h hi hrule).2
  unfired := by
    intro policy d h hnone
    rcases cases_of_evaluate h with ⟨before, rule, after, hrules, hrule, -, -⟩ |
      ⟨-, hstate, hindex⟩
    · exact absurd (hrules ▸ (isLeast_of_isFirst hrule after).1) (hnone before.length)
    · exact ⟨hindex, hstate⟩
  frame := by
    intro policy d h i rule hi hrule kept hkept after
    obtain ⟨hfirst, hstate⟩ := isFirst_of_ruleIndex h hi hrule
    have hrules : ({ policy with decisionRules := kept ++ rule :: after } : Policy).decisionRules =
        kept ++ rule :: after := rfl
    obtain ⟨d', hd', hstate', hindex'⟩ := evaluate_of_isFirst hrules (hfirst.sublist hkept)
    exact ⟨d', hd', hstate'.trans hstate.symm, hindex'⟩
  replaced := by
    intro attached d h hreplaced
    cases attached with
    | none =>
        cases h
        cases hreplaced
    | some policy =>
        refine ⟨policy, rfl, ?_⟩
        rcases cases_of_evaluate h with ⟨before, rule, after, hrules, hrule, hstate, -⟩ |
          ⟨hmissed, hstate, -⟩
        · refine .inl ⟨before.length, rule, hrules ▸ isLeast_of_isFirst hrule after, ?_, ?_⟩
          · simp [hrules]
          · rw [← hstate, hreplaced]
        · refine .inr ⟨not_holdsAt_of_forall_missed hmissed, ?_⟩
          rw [hreplaced] at hstate
          cases hdefault : policy.defaultDecision with
          | none =>
              rw [hdefault] at hstate
              cases hstate
          | some state =>
              rw [hdefault, Option.getD_some] at hstate
              rw [hstate]

end Triage.Rules
