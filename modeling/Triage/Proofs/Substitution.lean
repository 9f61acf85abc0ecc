import Mathlib.Data.List.Basic
import Triage.Proofs.Placeholder

/-!
# Texts in the place of placeholders

A text is filled in by its spans, and afterwards another text is put in the place of every occurrence
of a placeholder (`exchanged`). Such a pass looks at the characters only. It does not know which
placeholders were among the spans and which came in with what they were filled with, or were made up
by what stands there side by side. Where none is new, the pass fills the spans of its name and
nothing else (`exchanged_filled`).

Two passes one after the other do what one pass over the spans would do exactly where neither of them
meets a new placeholder of its name (`exchanged_exchanged_iff`). No placeholder is ever lost before
its pass (`count_le_occurrences`), so what can go wrong is that some are added. That it does not go
wrong in both passes follows by a weight that tells the two placeholders apart, and by counting
characters it cannot be made good by a text of another length.
-/

namespace Triage

namespace Template

open Triage.Span

variable {name other s t u new : List Char} {f : Span → List Char} {xs : List Span}

/-- How often a placeholder stands in a text. -/
def occurrences (name s : List Char) : Nat := (spansFrom 0 s).count (.placeholder name)

/-- A text with another one in the place of every occurrence of a placeholder. -/
def exchanged (name new s : List Char) : List Char :=
  (spansFrom 0 s).flatMap (filling (.placeholder name) new raw)

/-! ## Splitting a text at a placeholder -/

theorem occurrences_append (h : IsName name) (s t : List Char) :
    occurrences name (s ++ (placeholder name).raw ++ t) =
      occurrences name s + occurrences name t + 1 := by
  rw [occurrences, spansFrom_append h, List.count_append, List.count_cons_self]
  rfl

theorem exchanged_append (h : IsName name) (new s t : List Char) :
    exchanged name new (s ++ (placeholder name).raw ++ t) =
      exchanged name new s ++ new ++ exchanged name new t := by
  rw [exchanged, spansFrom_append h, List.flatMap_append, List.flatMap_cons, filling_self,
    ← List.append_assoc]
  rfl

theorem exchanged_append_of_ne (h : IsName other) (hne : other ≠ name) (new s t : List Char) :
    exchanged name new (s ++ (placeholder other).raw ++ t) =
      exchanged name new s ++ (placeholder other).raw ++ exchanged name new t := by
  rw [exchanged, spansFrom_append h, List.flatMap_append, List.flatMap_cons,
    filling_of_ne (by simpa using hne), ← List.append_assoc]
  rfl

/-! ## What an exchange leaves alone -/

theorem flatMap_filling_of_count_eq_zero {p : Span} (h : xs.count p = 0) :
    xs.flatMap (filling p new f) = xs.flatMap f := by
  refine List.flatMap_congr fun x hx => filling_of_ne fun heq => ?_
  exact List.count_eq_zero.mp h (heq ▸ hx)

theorem exchanged_of_occurrences_eq_zero (h : occurrences name s = 0) :
    exchanged name new s = s := by
  rw [exchanged, flatMap_filling_of_count_eq_zero h, flatMap_raw_spansFrom]

theorem flatMap_filling_of_eq {p : Span} (h : f p = new) (xs : List Span) :
    xs.flatMap (filling p new f) = xs.flatMap f := by
  refine List.flatMap_congr fun x _ => ?_
  by_cases hx : x = p
  · rw [hx, filling_self, h]
  · exact filling_of_ne hx

theorem exchanged_raw (name s : List Char) : exchanged name (placeholder name).raw s = s := by
  rw [exchanged, flatMap_filling_of_eq rfl, flatMap_raw_spansFrom]

/-! ## Weights -/

/-- What another text in the place of a span does to a weight that adds up over texts. -/
theorem weight_flatMap_filling {w : List Char → Nat} (hw : ∀ s t, w (s ++ t) = w s + w t)
    (p : Span) (new : List Char) (f : Span → List Char) (xs : List Span) :
    w (xs.flatMap (filling p new f)) + xs.count p * w (f p) =
      w (xs.flatMap f) + xs.count p * w new := by
  induction xs with
  | nil => simp
  | cons x xs ih =>
      rw [List.flatMap_cons, List.flatMap_cons, hw, hw]
      by_cases h : x = p
      · subst h
        rw [List.count_cons_self, filling_self, Nat.add_mul, Nat.add_mul]
        omega
      · rw [List.count_cons_of_ne h, filling_of_ne h]
        omega

theorem weight_exchanged {w : List Char → Nat} (hw : ∀ s t, w (s ++ t) = w s + w t)
    (name new s : List Char) :
    w (exchanged name new s) + occurrences name s * w (placeholder name).raw =
      w s + occurrences name s * w new := by
  rw [exchanged, occurrences, weight_flatMap_filling hw, flatMap_raw_spansFrom]

theorem length_exchanged (h : new.length = (placeholder name).raw.length) (s : List Char) :
    (exchanged name new s).length = s.length := by
  have hweight := weight_exchanged (w := List.length) (fun _ _ => List.length_append) name new s
  rw [h] at hweight
  omega

/-! ## A pass over filled spans

The spans are filled by `f`, which leaves the placeholder of the pass as it is. The inductions go over
the spans, with the text `s` of those that have been passed since the last placeholder in front. -/

theorem flatMap_cons_assoc (s : List Char) (x : Span) (xs : List Span) (f : Span → List Char) :
    s ++ (x :: xs).flatMap f = s ++ f x ++ xs.flatMap f := by
  rw [List.flatMap_cons, List.append_assoc]

theorem count_le_occurrences (h : IsName name) (hf : f (.placeholder name) = (placeholder name).raw)
    (s : List Char) (xs : List Span) :
    xs.count (.placeholder name) ≤ occurrences name (s ++ xs.flatMap f) := by
  induction xs generalizing s with
  | nil => exact Nat.zero_le _
  | cons x xs ih =>
      rw [flatMap_cons_assoc]
      by_cases hx : x = .placeholder name
      · subst hx
        rw [List.count_cons_self, hf, occurrences_append h]
        have hrest := ih []
        rw [List.nil_append] at hrest
        omega
      · rw [List.count_cons_of_ne hx]
        exact ih _

/-- Where no placeholder is new, the pass fills the spans of its name and nothing else. -/
theorem exchanged_filled (h : IsName name) (hf : f (.placeholder name) = (placeholder name).raw)
    (hs : occurrences name (s ++ xs.flatMap f) = xs.count (.placeholder name)) :
    exchanged name new (s ++ xs.flatMap f) =
      s ++ xs.flatMap (filling (.placeholder name) new f) := by
  induction xs generalizing s with
  | nil => exact exchanged_of_occurrences_eq_zero hs
  | cons x xs ih =>
      rw [flatMap_cons_assoc, flatMap_cons_assoc]
      rw [flatMap_cons_assoc] at hs
      by_cases hx : x = .placeholder name
      · subst hx
        rw [List.count_cons_self, hf, occurrences_append h] at hs
        -- the rest of the spans has its share, so nothing is left for the text in front
        have hle := count_le_occurrences h hf [] xs
        rw [List.nil_append] at hle
        have hrest := ih (s := []) (by rw [List.nil_append]; omega)
        rw [List.nil_append, List.nil_append] at hrest
        rw [hf, exchanged_append h, exchanged_of_occurrences_eq_zero (by omega), hrest, filling_self]
      · rw [List.count_cons_of_ne hx] at hs
        rw [filling_of_ne hx]
        exact ih hs

/-! ## Passes that come out right by another way

Where some placeholders are new, a pass changes more than it should. Its result can still be the
wanted one if nothing is seen of the change; by the length of the texts that is only so where the new
text is the placeholder itself. -/

/-- Texts that stand for texts of their own length and change nothing stand for themselves. -/
theorem of_flatMap_filling_eq {p : Span} (hlen : new.length = (f p).length)
    (h : xs.flatMap (filling p new f) = xs.flatMap f) : xs.count p = 0 ∨ new = f p := by
  induction xs with
  | nil => exact .inl rfl
  | cons x xs ih =>
      rw [List.flatMap_cons, List.flatMap_cons] at h
      by_cases hx : x = p
      · subst hx
        rw [filling_self] at h
        exact .inr (List.append_inj h hlen).1
      · rw [filling_of_ne hx] at h
        rw [List.count_cons_of_ne hx]
        exact ih (List.append_cancel_left h)

theorem of_exchanged_eq_self (hlen : new.length = (placeholder name).raw.length)
    (h : exchanged name new s = s) : occurrences name s = 0 ∨ new = (placeholder name).raw :=
  of_flatMap_filling_eq hlen (h.trans (flatMap_raw_spansFrom s).symm)

theorem of_exchanged_eq_filled (h : IsName name)
    (hf : f (.placeholder name) = (placeholder name).raw)
    (hlen : new.length = (placeholder name).raw.length)
    (heq : exchanged name new (s ++ xs.flatMap f) =
      s ++ xs.flatMap (filling (.placeholder name) new f)) :
    occurrences name (s ++ xs.flatMap f) = xs.count (.placeholder name) ∨
      new = (placeholder name).raw := by
  induction xs generalizing s with
  | nil => exact of_exchanged_eq_self hlen (by simpa using heq)
  | cons x xs ih =>
      rw [flatMap_cons_assoc] at heq ⊢
      rw [flatMap_cons_assoc] at heq
      by_cases hx : x = .placeholder name
      · subst hx
        -- both sides put the new text in the same place, since the lengths in front agree
        rw [hf, exchanged_append h, filling_self, List.append_assoc, List.append_assoc] at heq
        obtain ⟨hfront, hrest⟩ := List.append_inj heq (length_exchanged hlen s)
        rw [hf, occurrences_append h, List.count_cons_self]
        have hxs := ih (s := []) (by simpa using List.append_cancel_left hrest)
        rw [List.nil_append] at hxs
        rcases of_exchanged_eq_self hlen hfront with hs | hnew
        · exact hxs.imp_left fun hxs => by omega
        · exact .inr hnew
      · rw [filling_of_ne hx] at heq
        rw [List.count_cons_of_ne hx]
        exact ih heq

/-! ## Two passes -/

theorem eq_or_eq_of_mul {m n c d : Nat} (hle : m ≤ n) (h : n * c + m * d = m * c + n * d) :
    n = m ∨ c = d := by
  obtain ⟨k, rfl⟩ := Nat.exists_eq_add_of_le hle
  rw [Nat.add_mul, Nat.add_mul] at h
  rcases Nat.eq_zero_or_pos k with rfl | hk
  · exact .inl rfl
  · exact .inr (Nat.eq_of_mul_eq_mul_left hk (by omega))

theorem eq_or_eq_of_weight {m n m' n' c : Nat} (hle : m ≤ n) (hle' : m' ≤ n')
    (h : n * c + m + n' * c = m * c + n + m' * c) : n = m ∨ n' = m' := by
  obtain ⟨k, rfl⟩ := Nat.exists_eq_add_of_le hle
  obtain ⟨k', rfl⟩ := Nat.exists_eq_add_of_le hle'
  cases c with
  | zero => exact .inl (by omega)
  | succ c =>
      rw [Nat.add_mul, Nat.add_mul, Nat.mul_succ k, Nat.mul_succ k'] at h
      exact .inr (by omega)

section TwoPasses

variable (hname : IsName name) (hother : IsName other) (hne : other ≠ name)
  (hfname : f (.placeholder name) = (placeholder name).raw)
  (hfother : f (.placeholder other) = (placeholder other).raw)

include hne hfother

/-- The first pass leaves the second placeholder for the second one. -/
theorem filling_other (new : List Char) :
    filling (.placeholder name) new f (.placeholder other) = (placeholder other).raw := by
  rw [filling_of_ne (by simpa using hne), hfother]

include hfname

/-- What two passes weigh more or less than one: each placeholder that one of them meets too many has
given its weight for that of the new text. -/
theorem weight_of_exchanged_eq {w : List Char → Nat} (hw : ∀ s t, w (s ++ t) = w s + w t)
    (heq : exchanged other new (exchanged name new (xs.flatMap f)) =
      xs.flatMap (filling (.placeholder other) new (filling (.placeholder name) new f))) :
    occurrences name (xs.flatMap f) * w new + xs.count (.placeholder name) * w (placeholder name).raw +
        (occurrences other (exchanged name new (xs.flatMap f)) * w new +
          xs.count (.placeholder other) * w (placeholder other).raw) =
      xs.count (.placeholder name) * w new + occurrences name (xs.flatMap f) * w (placeholder name).raw +
        (xs.count (.placeholder other) * w new +
          occurrences other (exchanged name new (xs.flatMap f)) * w (placeholder other).raw) := by
  have h₁ := weight_exchanged hw name new (xs.flatMap f)
  have h₂ := weight_exchanged hw other new (exchanged name new (xs.flatMap f))
  have h₃ := weight_flatMap_filling hw (.placeholder name) new f xs
  have h₄ := weight_flatMap_filling hw (.placeholder other) new (filling (.placeholder name) new f) xs
  rw [hfname] at h₃
  rw [filling_other hne hfother] at h₄
  rw [heq] at h₂
  omega

include hname hother

/-- The pass for one placeholder loses none of another. -/
theorem count_le_occurrences_exchanged (new t s : List Char) (xs : List Span) :
    xs.count (.placeholder other) ≤
      occurrences other (t ++ exchanged name new (s ++ xs.flatMap f)) := by
  induction xs generalizing t s with
  | nil => exact Nat.zero_le _
  | cons x xs ih =>
      rw [flatMap_cons_assoc]
      by_cases hx : x = .placeholder other
      · subst hx
        rw [List.count_cons_self, hfother, exchanged_append_of_ne hother hne, ← List.append_assoc,
          ← List.append_assoc, occurrences_append hother]
        have hrest := ih [] []
        rw [List.nil_append, List.nil_append] at hrest
        omega
      · rw [List.count_cons_of_ne hx]
        by_cases hx' : x = .placeholder name
        · subst hx'
          rw [hfname, exchanged_append hname, ← List.append_assoc]
          have hrest := ih (t ++ (exchanged name new s ++ new)) []
          rwa [List.nil_append] at hrest
        · exact ih t _

/-- Where the second pass has nothing new to do and the result is the wanted one, the first pass did
what it should: the second pass changes its result at the places of the template only, so the rest of
it can be read off from the result of the second. -/
theorem exchanged_eq_of_second (hlen : new.length = (placeholder name).raw.length)
    (hst : t.length + s.length = u.length)
    (hcount : occurrences other (t ++ exchanged name new (s ++ xs.flatMap f)) =
      xs.count (.placeholder other))
    (heq : exchanged other new (t ++ exchanged name new (s ++ xs.flatMap f)) =
      u ++ xs.flatMap (filling (.placeholder other) new (filling (.placeholder name) new f))) :
    t ++ exchanged name new (s ++ xs.flatMap f) =
      u ++ xs.flatMap (filling (.placeholder name) new f) := by
  have hsecond {x : Span} (h : x ≠ .placeholder other) :
      filling (.placeholder other) new (filling (.placeholder name) new f) x =
        filling (.placeholder name) new f x := filling_of_ne h
  induction xs generalizing t s u with
  | nil =>
      rw [exchanged_of_occurrences_eq_zero hcount] at heq
      exact heq
  | cons x xs ih =>
      rw [flatMap_cons_assoc] at hcount heq
      rw [flatMap_cons_assoc] at heq
      rw [flatMap_cons_assoc, flatMap_cons_assoc]
      by_cases hx : x = .placeholder other
      · subst hx
        -- all occurrences are among the rest of the spans, so the text in front keeps its length
        -- and comes out of the second pass as it is
        have hxs := count_le_occurrences_exchanged hname hother hne hfname hfother new [] [] xs
        rw [List.nil_append, List.nil_append] at hxs
        rw [hfother, exchanged_append_of_ne hother hne, ← List.append_assoc, ← List.append_assoc]
          at hcount heq ⊢
        rw [occurrences_append hother, List.count_cons_self] at hcount
        rw [exchanged_append hother, exchanged_of_occurrences_eq_zero (by omega), filling_self,
          List.append_assoc, List.append_assoc u] at heq
        obtain ⟨hfront, hrest⟩ := List.append_inj heq (by
          rw [List.length_append, length_exchanged hlen, hst])
        have hback := ih (s := []) (t := []) (u := []) rfl (by simpa using by omega)
          (by simpa using List.append_cancel_left hrest)
        rw [List.nil_append, List.nil_append, List.nil_append] at hback
        rw [filling_other hne hfother, hfront, hback]
      · rw [List.count_cons_of_ne hx] at hcount
        rw [hsecond hx] at heq
        by_cases hx' : x = .placeholder name
        · subst hx'
          rw [filling_self] at heq ⊢
          rw [hfname, exchanged_append hname, ← List.append_assoc] at hcount heq ⊢
          refine ih (s := []) ?_ hcount heq
          simp only [List.length_append, length_exchanged hlen, List.length_nil]
          omega
        · rw [filling_of_ne hx'] at heq ⊢
          exact ih (by simp only [List.length_append]; omega) hcount heq

/-- The two passes do what one does exactly where neither of them meets a new placeholder of its name,
but for a text that is the placeholder itself. The weight `w` tells the two placeholders apart. -/
theorem exchanged_exchanged_iff {w : List Char → Nat} (hw : ∀ s t, w (s ++ t) = w s + w t)
    (hwname : w (placeholder name).raw = 1) (hwother : w (placeholder other).raw = 0) :
    exchanged other new (exchanged name new (xs.flatMap f)) =
        xs.flatMap (filling (.placeholder other) new (filling (.placeholder name) new f)) ↔
      (occurrences name (xs.flatMap f) = xs.count (.placeholder name) ∨
        new = (placeholder name).raw) ∧
      (occurrences other (exchanged name new (xs.flatMap f)) = xs.count (.placeholder other) ∨
        new = (placeholder other).raw) := by
  have hkept := filling_other hne hfother new
  have hfirst : occurrences name (xs.flatMap f) = xs.count (.placeholder name) ∨
      new = (placeholder name).raw →
      exchanged name new (xs.flatMap f) = xs.flatMap (filling (.placeholder name) new f) := by
    rintro (h | rfl)
    · exact exchanged_filled (s := []) hname hfname h
    · rw [exchanged_raw, flatMap_filling_of_eq hfname]
  constructor
  · intro heq
    have hle := count_le_occurrences hname hfname [] xs
    have hle' := count_le_occurrences_exchanged hname hother hne hfname hfother new [] [] xs
    rw [List.nil_append] at hle hle'
    rw [List.nil_append] at hle'
    have hlength := weight_of_exchanged_eq hne hfname hfother (w := List.length)
      (fun _ _ => List.length_append) heq
    -- one of the two passes meets nothing new
    have hone : occurrences name (xs.flatMap f) = xs.count (.placeholder name) ∨
        occurrences other (exchanged name new (xs.flatMap f)) = xs.count (.placeholder other) := by
      have hweight := weight_of_exchanged_eq hne hfname hfother hw heq
      rw [hwname, hwother] at hweight
      exact eq_or_eq_of_weight hle hle' (by simpa using hweight)
    rcases hone with hname' | hother'
    · rw [hname'] at hlength
      refine ⟨.inl hname', ?_⟩
      rcases eq_or_eq_of_mul (c := new.length) (d := (placeholder other).raw.length) hle'
          (by omega) with hother' | hlen
      · exact .inl hother'
      · rw [hfirst (.inl hname')] at heq ⊢
        exact of_exchanged_eq_filled (s := []) hother hkept hlen heq
    · rw [hother'] at hlength
      refine ⟨?_, .inl hother'⟩
      rcases eq_or_eq_of_mul (c := new.length) (d := (placeholder name).raw.length) hle
          (by omega) with hname' | hlen
      · exact .inl hname'
      · exact of_exchanged_eq_filled (s := []) hname hfname hlen <|
          exchanged_eq_of_second (t := []) (s := []) (u := []) hname hother hne hfname hfother hlen rfl
            hother' heq
  · rintro ⟨hname', hother'⟩
    rw [hfirst hname'] at hother' ⊢
    rcases hother' with h | rfl
    · exact exchanged_filled (s := []) hother hkept h
    · rw [exchanged_raw, flatMap_filling_of_eq hkept]

end TwoPasses

end Template
end Triage
