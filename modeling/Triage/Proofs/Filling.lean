import Mathlib.Data.List.Chain
import Triage.Proofs.Placeholder

/-!
# Templates are cut in one way and filled in one pass

A text falls into stretches without a placeholder and the placeholders between them
(`firstInduction`), and its spans are just these (`isCut_iff`). Nobody could cut it otherwise: a cut
loses nothing, has no empty literal and no two side by side, and leaves no placeholder inside one.

Filling goes over the text once, from its front (`Fills`). What has been put in the place of a
placeholder lies behind the pass and is not looked at again, whatever it says. The result of the pass
and the placeholders that it has left standing are those of `render` and `unresolved` (`fills_iff`).
-/

namespace Triage

namespace Template

open Triage.Span

variable {s t u : List Char} {name : List Char} {c : Char} {xs ys : List Span}

/-! ## Stretches without a placeholder -/

/-- No placeholder stands in the text. -/
def IsPlain (s : List Char) : Prop := ∀ name, IsName name → ¬ (placeholder name).raw <:+: s

theorem isPlain_nil : IsPlain [] := by
  intro name _ hoccurs
  have hnil : (placeholder name).raw = [] := List.infix_nil.mp hoccurs
  simp [raw] at hnil

theorem IsPlain.of_occurs (h : IsPlain t) (hs : s <:+: t) : IsPlain s := by
  intro name hname hoccurs
  exact h name hname (hoccurs.trans hs)

/-- At the front of a text without placeholders stands none. -/
theorem IsPlain.placeholder?_eq_none (h : IsPlain s) : placeholder? s = none := by
  cases hfront : placeholder? s with
  | none => rfl
  | some name =>
      obtain ⟨hname, t, hs⟩ := placeholder?_eq_some_iff.mp hfront
      exact absurd (hs ▸ (List.prefix_append _ t).isInfix) (h name hname)

/-- A character in front of a text adds at most the placeholder that starts with it. -/
theorem isPlain_cons (hs : IsPlain s) (hfront : placeholder? (c :: s) = none) :
    IsPlain (c :: s) := by
  intro name hname hoccurs
  rcases List.infix_cons_iff.mp hoccurs with hstarts | hoccurs
  · obtain ⟨t, ht⟩ := hstarts
    have hsome : placeholder? (c :: s) = some name := ht ▸ placeholder?_raw hname t
    rw [hfront] at hsome
    cases hsome
  · exact hs name hname hoccurs

/-- A text is plain, or its first placeholder stands behind a plain stretch. -/
theorem isPlain_or_first (s : List Char) :
    IsPlain s ∨ ∃ pre name t, IsPlain pre ∧ IsName name ∧ s = pre ++ (placeholder name).raw ++ t := by
  induction s using frontInduction with
  | nil => exact .inl isPlain_nil
  | raw name t hname _ => exact .inr ⟨[], name, t, isPlain_nil, hname, rfl⟩
  | char c t hnone ih =>
      rcases ih with ht | ⟨pre, name, u, hpre, hname, rfl⟩
      · exact .inl (isPlain_cons ht hnone)
      · -- what starts with the character would have to end before the next opening brace
        have hfront : placeholder? (c :: pre) = none := by
          rw [← hnone, ← placeholder?_append (List.cons_ne_nil c pre) (name ++ '}' :: u)]
          simp [raw]
        exact .inr ⟨c :: pre, name, u, isPlain_cons hpre hfront, hname, rfl⟩

/-- Induction over a text from placeholder to placeholder. -/
@[elab_as_elim]
theorem firstInduction {motive : List Char → Prop} (s : List Char)
    (plain : ∀ s, IsPlain s → motive s)
    (first : ∀ pre name t, IsPlain pre → IsName name → motive t →
      motive (pre ++ (placeholder name).raw ++ t)) : motive s := by
  induction h : s.length using Nat.strongRecOn generalizing s with
  | ind n ih =>
      rcases isPlain_or_first s with hs | ⟨pre, name, t, hpre, hname, rfl⟩
      · exact plain s hs
      · have hlen : t.length < n := by
          rw [← h]
          simp only [raw, List.length_append, List.length_cons]
          omega
        exact first pre name t hpre hname (ih t.length hlen t rfl)

/-! ## The only way to cut a text -/

/-- The literal for a stretch of text, if there is anything in it. -/
def stretch (s : List Char) : List Span := if s = [] then [] else [.literal s]

theorem spansFrom_of_isPlain (h : IsPlain s) : spansFrom 0 s = stretch s := by
  induction s with
  | nil => rfl
  | cons c s ih =>
      have hs : IsPlain s := h.of_occurs (List.suffix_cons c s).isInfix
      rw [spansFrom_of_none h.placeholder?_eq_none, ih hs]
      cases s with
      | nil => rfl
      | cons d s => rfl

theorem spansFrom_first (hpre : IsPlain s) (hname : IsName name) (t : List Char) :
    spansFrom 0 (s ++ (placeholder name).raw ++ t) =
      stretch s ++ .placeholder name :: spansFrom 0 t := by
  rw [spansFrom_append hname, spansFrom_of_isPlain hpre]

/-- The span stands for itself. -/
def IsLiteral (x : Span) : Prop := ∃ text, x = .literal text

theorem not_isLiteral (name : List Char) : ¬ IsLiteral (.placeholder name) := by
  rintro ⟨text, htext⟩
  cases htext

/-- The text is cut into these spans: together they are the text, no literal is empty or has a
placeholder in it, no two literals stand side by side, and what stands in braces is a name. -/
structure IsCut (s : List Char) (xs : List Span) : Prop where
  lossless : xs.flatMap raw = s
  nonempty : ∀ text, .literal text ∈ xs → text ≠ []
  plain : ∀ text, .literal text ∈ xs → IsPlain text
  apart : xs.IsChain fun x y => ¬ (IsLiteral x ∧ IsLiteral y)
  named : ∀ name, .placeholder name ∈ xs → IsName name

theorem isCut_stretch (h : IsPlain s) : IsCut s (stretch s) := by
  unfold stretch
  by_cases hs : s = []
  · rw [if_pos hs]
    exact ⟨hs.symm, by simp, by simp, .nil, by simp⟩
  · rw [if_neg hs]
    refine ⟨by simp [raw], ?_, ?_, .singleton _, by simp⟩
    · intro text htext
      have heq : text = s := by simpa using htext
      exact heq ▸ hs
    · intro text htext
      have heq : text = s := by simpa using htext
      exact heq ▸ h

/-- Cuts of two texts are a cut of both with a placeholder between them. -/
theorem IsCut.append (hs : IsCut s xs) (ht : IsCut t ys) (hname : IsName name) :
    IsCut (s ++ (placeholder name).raw ++ t) (xs ++ .placeholder name :: ys) where
  lossless := by
    rw [List.flatMap_append, List.flatMap_cons, hs.lossless, ht.lossless, List.append_assoc]
  nonempty := by
    intro text htext
    rcases List.mem_append.mp htext with hx | hy
    · exact hs.nonempty text hx
    · exact ht.nonempty text (List.mem_of_ne_of_mem (by simp) hy)
  plain := by
    intro text htext
    rcases List.mem_append.mp htext with hx | hy
    · exact hs.plain text hx
    · exact ht.plain text (List.mem_of_ne_of_mem (by simp) hy)
  apart := by
    refine List.isChain_append.mpr ⟨hs.apart, ?_, ?_⟩
    · refine List.isChain_cons.mpr ⟨?_, ht.apart⟩
      intro y _ hboth
      exact not_isLiteral name hboth.1
    · intro x _ y hy hboth
      obtain rfl : Span.placeholder name = y := by simpa using hy
      exact not_isLiteral name hboth.2
  named := by
    intro other hother
    rcases List.mem_append.mp hother with hx | hy
    · exact hs.named other hx
    · rcases List.mem_cons.mp hy with heq | hy
      · obtain rfl : other = name := by simpa using heq
        exact hname
      · exact ht.named other hy

/-- **The spans of a text are a cut of it.** -/
theorem isCut_spansFrom (s : List Char) : IsCut s (spansFrom 0 s) := by
  induction s using firstInduction with
  | plain s hs =>
      rw [spansFrom_of_isPlain hs]
      exact isCut_stretch hs
  | first pre name t hpre hname ih =>
      rw [spansFrom_first hpre hname]
      exact (isCut_stretch hpre).append ih hname

/-- What follows the first span is a cut of the rest. -/
theorem IsCut.tail {x : Span} (h : IsCut s (x :: xs)) : IsCut (xs.flatMap raw) xs where
  lossless := rfl
  nonempty := fun text htext => h.nonempty text (List.mem_cons_of_mem x htext)
  plain := fun text htext => h.plain text (List.mem_cons_of_mem x htext)
  apart := (List.isChain_cons.mp h.apart).2
  named := fun name hname => h.named name (List.mem_cons_of_mem x hname)

/-- **There is no other cut.** -/
theorem IsCut.eq_spansFrom : ∀ {xs : List Span} {s : List Char}, IsCut s xs → xs = spansFrom 0 s
  | [], s, h => by
      obtain rfl : [] = s := h.lossless
      rfl
  | .placeholder name :: xs, s, h => by
      have hname : IsName name := h.named name List.mem_cons_self
      rw [← h.lossless, List.flatMap_cons, spansFrom_raw hname, ← h.tail.eq_spansFrom]
  | [.literal text], s, h => by
      have hne : text ≠ [] := h.nonempty text List.mem_cons_self
      have hs : text = s := by simpa [raw] using h.lossless
      rw [← hs, spansFrom_of_isPlain (h.plain text List.mem_cons_self), stretch, if_neg hne]
  | .literal text :: .placeholder name :: xs, s, h => by
      have hne : text ≠ [] := h.nonempty text List.mem_cons_self
      have hname : IsName name := h.named name (by simp)
      have hs : text ++ (placeholder name).raw ++ xs.flatMap raw = s := by
        rw [← h.lossless, List.flatMap_cons, List.flatMap_cons, List.append_assoc]
        rfl
      rw [← hs, spansFrom_first (h.plain text List.mem_cons_self) hname, stretch, if_neg hne,
        ← h.tail.tail.eq_spansFrom]
      rfl
  | .literal text :: .literal text' :: xs, s, h => by
      have hboth := (List.isChain_cons_cons.mp h.apart).1
      exact absurd ⟨⟨text, rfl⟩, ⟨text', rfl⟩⟩ hboth

theorem isCut_iff : IsCut s xs ↔ xs = spansFrom 0 s := by
  constructor
  · exact IsCut.eq_spansFrom
  · rintro rfl
    exact isCut_spansFrom s

/-- Of doubled braces the inner ones belong to the placeholder. -/
example : spansFrom 0 ['\x7b', '\x7b', 'a', '\x7d', '\x7d'] =
    [.literal ['\x7b'], .placeholder ['a'], .literal ['\x7d']] := by
  decide

/-! ## One pass -/

/-- A pass over a text from its front: up to the next placeholder nothing changes; a placeholder whose
field has a value gives way to the words for that value, any other one stays and is noted; and the
pass goes on behind it. -/
inductive Fills (values : Record) : List Char → List Char → List String → Prop where
  | rest {s : List Char} : IsPlain s → Fills values s s []
  | filled {pre name t out : List Char} {v : Json} {left : List String} :
      IsPlain pre → IsName name →
      values.get? (String.ofList name) = some v → v ≠ .null →
      Fills values t out left →
      Fills values (pre ++ (placeholder name).raw ++ t) (pre ++ v.chatText.toList ++ out) left
  | left {pre name t out : List Char} {left : List String} :
      IsPlain pre → IsName name →
      values.getD (String.ofList name) = .null →
      Fills values t out left →
      Fills values (pre ++ (placeholder name).raw ++ t) (pre ++ (placeholder name).raw ++ out)
        (String.ofList name :: left)

/-- The names of the placeholders among the spans that stay. -/
def openNames (values : Record) (xs : List Span) : List String :=
  (xs.filterMap fun
    | .placeholder name => some (String.ofList name)
    | .literal _ => none).filter fun name => (value? values name.toList).isNone

variable {values : Record} {out : List Char} {left : List String}

theorem flatMap_render_stretch (values : Record) (s : List Char) :
    (stretch s).flatMap (Span.render values) = s := by
  unfold stretch
  by_cases hs : s = []
  · rw [if_pos hs, hs]
    rfl
  · rw [if_neg hs]
    simp [Span.render]

theorem openNames_stretch (values : Record) (s : List Char) (xs : List Span) :
    openNames values (stretch s ++ xs) = openNames values xs := by
  unfold openNames stretch
  by_cases hs : s = []
  · rw [if_pos hs]
    rfl
  · rw [if_neg hs]
    rfl

theorem value?_eq_some {name : List Char} {v : Json}
    (hv : values.get? (String.ofList name) = some v) (hne : v ≠ .null) :
    value? values name = some v := by
  unfold value?
  rw [hv]
  cases v with
  | null => exact absurd rfl hne
  | _ => rfl

/-- **The pass gives what filling the spans gives, and notes what stays among them.** -/
theorem eq_of_fills (h : Fills values s out left) :
    out = (spansFrom 0 s).flatMap (Span.render values) ∧
      left = openNames values (spansFrom 0 s) := by
  induction h with
  | @rest s hs =>
      rw [spansFrom_of_isPlain hs, flatMap_render_stretch]
      refine ⟨rfl, ?_⟩
      have hnone := openNames_stretch values s []
      rw [List.append_nil] at hnone
      exact hnone.symm
  | @filled pre name t out v left hpre hname hv hne _ ih =>
      have hvalue : value? values name = some v := value?_eq_some hv hne
      rw [spansFrom_first hpre hname, List.flatMap_append, List.flatMap_cons,
        flatMap_render_stretch, openNames_stretch, ih.1, ih.2, List.append_assoc]
      refine ⟨by simp only [Span.render, hvalue], ?_⟩
      simp [openNames, hvalue]
  | @left pre name t out left hpre hname hnull _ ih =>
      have hvalue : value? values name = none := value?_eq_none_iff.mpr hnull
      rw [spansFrom_first hpre hname, List.flatMap_append, List.flatMap_cons,
        flatMap_render_stretch, openNames_stretch, ih.1, ih.2, List.append_assoc]
      refine ⟨by simp only [Span.render, hvalue], ?_⟩
      simp [openNames, hvalue]

/-- The pass always comes to an end. -/
theorem exists_fills (values : Record) (s : List Char) : ∃ out left, Fills values s out left := by
  induction s using firstInduction with
  | plain s hs => exact ⟨s, [], .rest hs⟩
  | first pre name t hpre hname ih =>
      obtain ⟨out, left, hrest⟩ := ih
      by_cases hnull : values.getD (String.ofList name) = .null
      · exact ⟨_, _, .left hpre hname hnull hrest⟩
      · cases hv : values.get? (String.ofList name) with
        | none =>
            rw [Record.getD, hv] at hnull
            exact absurd rfl hnull
        | some v =>
            rw [Record.getD, hv] at hnull
            exact ⟨_, _, .filled hpre hname hv hnull hrest⟩

theorem fills_iff (template : String) (values : Record) (out : List Char) (left : List String) :
    Fills values template.toList out left ↔
      out = (render template values).toList ∧ left = unresolved template values := by
  have hrender : (render template values).toList =
      (spansFrom 0 template.toList).flatMap (Span.render values) := String.toList_ofList
  have hopen : unresolved template values = openNames values (spansFrom 0 template.toList) := rfl
  rw [hrender, hopen]
  constructor
  · exact eq_of_fills
  · rintro ⟨rfl, rfl⟩
    obtain ⟨out, left, hfills⟩ := exists_fills values template.toList
    obtain ⟨rfl, rfl⟩ := eq_of_fills hfills
    exact hfills

/-- What cutting and filling a template come to. -/
structure IsOnePass (template : String) : Prop where
  /-- Its spans are the only cut of it. -/
  spans_iff : ∀ xs, IsCut template.toList xs ↔ xs = spans template
  /-- What is rendered, and what stays unresolved, is what one pass gives and notes. -/
  fills_iff : ∀ values out left, Fills values template.toList out left ↔
    out = (render template values).toList ∧ left = unresolved template values
  /-- Without values nothing changes. -/
  render_nil : render template [] = template
  /-- Nothing stays unresolved exactly where every placeholder has a value. -/
  unresolved_eq_nil_iff : ∀ values, unresolved template values = [] ↔ IsFilled template values

/-- **A template is cut in one way and filled in one pass.** -/
theorem isOnePass (template : String) : IsOnePass template where
  spans_iff := fun xs => isCut_iff
  fills_iff := fun values out left => fills_iff template values out left
  render_nil := by
    have hraw : Span.render [] = raw := by
      funext x
      cases x with
      | literal text => rfl
      | placeholder name => rfl
    unfold render spans
    rw [hraw, flatMap_raw_spansFrom, String.ofList_toList]
  unresolved_eq_nil_iff := by
    intro values
    rw [← List.isEmpty_iff, unresolved_isEmpty_iff]

end Template
end Triage
