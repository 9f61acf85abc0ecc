import Mathlib.Data.List.Basic
import Triage.Metrics

/-!
# What the samples count

The samples of a family are read off a journal: every labelling that occurs has one, with the number
of times it occurs. So the number under some labels is the number of events that are counted under
them (`value_eq`), and all numbers of a family together are the number of events that it counts
(`total_eq`). Both are stated as counts over the journal itself, since these add up where journals are
put one behind the other.
-/

namespace Triage.Metrics

variable {c : Counter} {labels : Labels} {journal : Journal}

/-- The number that a family has under some labels; without a sample it is zero. -/
def value (c : Counter) (labels : Labels) (journal : Journal) : Nat :=
  ((samples c journal).lookup labels).getD 0

/-- All numbers of a family together. -/
def total (c : Counter) (journal : Journal) : Nat :=
  ((samples c journal).map Prod.snd).foldr (· + ·) 0

theorem mem_firstSeen {α : Type} [BEq α] [LawfulBEq α] {a : α} {values : List α} :
    a ∈ firstSeen values ↔ a ∈ values := List.mem_eraseDups

/-- Each value is counted once: the times that the values first seen occur add up to the number of
all values there are. -/
theorem sum_count_firstSeen {α : Type} [BEq α] [LawfulBEq α] (values : List α) :
    ((firstSeen values).map fun a => values.count a).foldr (· + ·) 0 = values.length := by
  induction h : values.length using Nat.strongRecOn generalizing values with
  | ind n ih =>
    cases values with
    | nil => exact h
    | cons a rest =>
        subst h
        have hother : ∀ b ∈ firstSeen (rest.filter fun b => !b == a),
            (a :: rest).count b = (rest.filter fun b => !b == a).count b := by
          intro b hb
          have hne : (!b == a) = true := (List.mem_filter.mp (mem_firstSeen.mp hb)).2
          have hab : ¬ (a == b) = true := by
            rw [beq_iff_eq]
            rintro rfl
            simp at hne
          rw [List.count_cons, if_neg hab, Nat.add_zero, List.count_filter (p := fun b => !b == a) hne]
        -- without `a` what is left is shorter
        have hrest := ih _ (Nat.lt_succ_of_le (List.length_filter_le _ _))
          (rest.filter fun b => !b == a) rfl
        have hsplit := rest.length_eq_length_filter_add (· == a)
        rw [← List.count_eq_length_filter] at hsplit
        rw [firstSeen, List.eraseDups_cons, ← firstSeen, List.map_cons, List.foldr_cons,
          List.map_congr_left hother, hrest, List.count_cons_self, List.length_cons, hsplit]
        omega

theorem total_eq (c : Counter) (journal : Journal) :
    total c journal = journal.countP fun e => (c.labels e).isSome := by
  rw [total, samples, List.map_map]
  exact (sum_count_firstSeen _).trans List.length_filterMap_eq_countP

theorem value_eq (c : Counter) (labels : Labels) (journal : Journal) :
    value c labels journal = journal.countP fun e => c.labels e == some labels := by
  rw [← List.count_filterMap, value, samples]
  by_cases h : labels ∈ journal.filterMap c.labels
  · rw [List.lookup_graph _ (mem_firstSeen.mpr h)]
    rfl
  · have hnone : ((firstSeen (journal.filterMap c.labels)).map fun labels =>
        (labels, (journal.filterMap c.labels).count labels)).lookup labels = none := by
      rw [List.lookup_eq_none_iff]
      rintro p hp
      obtain ⟨other, hother, rfl⟩ := List.mem_map.mp hp
      rw [bne_iff_ne]
      rintro rfl
      exact h (mem_firstSeen.mp hother)
    rw [hnone, List.count_eq_zero_of_not_mem h]
    rfl

end Triage.Metrics
