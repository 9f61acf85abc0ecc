import Mathlib.Data.List.TakeWhile
import Triage.Template

/-!
# Placeholders of a text

Cutting a text into spans loses nothing (`flatMap_raw_spansFrom`), and a placeholder that stands in a
text is one of its spans wherever it stands: the cut in front of it and the cut behind it are made
independently of each other (`spansFrom_append`). Names have no braces in them, so no placeholder can
begin inside another one and none can reach over an opening brace.

Two ways of substituting for a placeholder therefore come to the same, replacing every occurrence of
its text and filling every span of its name (`replaceFrom_raw`).
-/

namespace Triage

namespace Span

/-- What fills the spans, with another text in the place of one of them. -/
def filling (p : Span) (new : List Char) (old : Span → List Char) (x : Span) : List Char :=
  if x = p then new else old x

variable {p x : Span} {new : List Char} {old : Span → List Char}

theorem filling_self (p : Span) (new : List Char) (old : Span → List Char) :
    filling p new old p = new := if_pos rfl

theorem filling_of_ne (h : x ≠ p) : filling p new old x = old x := if_neg h

theorem value?_eq_none_iff {values : Record} {name : List Char} :
    value? values name = none ↔ values.getD (String.ofList name) = .null := by
  rw [value?, Record.getD]
  rcases values.get? (String.ofList name) with _ | v
  · simp
  · cases v <;> simp

end Span

namespace Template

open Triage.Span

variable {c : Char} {name s t : List Char}

/-- A name: one character that starts names, then any characters of names. -/
def IsName (name : List Char) : Prop :=
  ∃ c rest, name = c :: rest ∧ isNameStart c = true ∧ ∀ d ∈ rest, isNameChar d = true

theorem IsName.isNameChar_of_mem (h : IsName name) (hc : c ∈ name) : isNameChar c = true := by
  obtain ⟨d, rest, rfl, hd, hrest⟩ := h
  rcases List.mem_cons.mp hc with rfl | hc
  · simp [isNameChar, hd]
  · exact hrest c hc

/-! ## Placeholders at the front -/

theorem placeholder?_eq_some_iff :
    placeholder? s = some name ↔ IsName name ∧ ∃ t, s = (placeholder name).raw ++ t := by
  constructor
  · intro h
    unfold placeholder? at h
    split at h
    · rename_i c rest
      dsimp only at h
      split at h
      · rename_i hc
        split at h
        · rename_i t hclose
          obtain rfl := Option.some.inj h
          refine ⟨⟨c, _, rfl, hc, fun d hd => List.mem_takeWhile_imp hd⟩, t, ?_⟩
          have hrest : rest = rest.takeWhile isNameChar ++ '}' :: t := by
            rw [← hclose, List.takeWhile_append_dropWhile]
          simp only [raw, List.cons_append, List.append_assoc, List.nil_append, ← hrest]
        · cases h
      · cases h
    · cases h
  · rintro ⟨⟨c, rest, rfl, hc, hrest⟩, t, rfl⟩
    have htake : (rest ++ '}' :: t).takeWhile isNameChar = rest := by
      rw [List.takeWhile_append_of_pos hrest, List.takeWhile_cons_of_neg (by decide),
        List.append_nil]
    have hdrop : (rest ++ '}' :: t).dropWhile isNameChar = '}' :: t := by
      rw [List.dropWhile_append_of_pos hrest, List.dropWhile_cons_of_neg (by decide)]
    simp [raw, placeholder?, hc, htake, hdrop]

theorem placeholder?_raw (h : IsName name) (t : List Char) :
    placeholder? ((placeholder name).raw ++ t) = some name :=
  placeholder?_eq_some_iff.mpr ⟨h, t, rfl⟩

theorem IsName.open_notMem (h : IsName name) : '{' ∉ name ++ ['}'] := by
  rw [List.mem_append, not_or]
  refine ⟨fun hmem => ?_, by decide⟩
  cases h.isNameChar_of_mem hmem

/-- Whether a placeholder stands at the front is settled before the next opening brace. -/
theorem placeholder?_append (hs : s ≠ []) (t : List Char) :
    placeholder? (s ++ '{' :: t) = placeholder? s := by
  refine Option.ext fun name => ?_
  rw [placeholder?_eq_some_iff, placeholder?_eq_some_iff]
  refine and_congr_right fun hname => ⟨?_, ?_⟩
  · rintro ⟨u, hu⟩
    rcases List.append_eq_append_iff.mp hu with ⟨a, hraw, ha⟩ | ⟨u', rfl, -⟩
    · cases a with
      | nil => exact ⟨[], by simpa using hraw.symm⟩
      | cons d a =>
          -- the opening brace would stand inside the placeholder
          obtain ⟨rfl, -⟩ := List.cons.inj ha
          cases s with
          | nil => exact absurd rfl hs
          | cons e s =>
              have hname' : name ++ ['}'] = s ++ '{' :: a := (List.cons.inj hraw).2
              exact absurd (hname' ▸ List.mem_append_right s (List.mem_cons_self))
                hname.open_notMem
    · exact ⟨u', rfl⟩
  · rintro ⟨u, rfl⟩
    exact ⟨u ++ '{' :: t, List.append_assoc _ _ _⟩

/-! ## Spans -/

theorem spansFrom_eq_drop (k : Nat) (s : List Char) : spansFrom k s = spansFrom 0 (s.drop k) := by
  induction s generalizing k with
  | nil => simp [spansFrom]
  | cons c rest ih =>
      cases k with
      | zero => rfl
      | succ k => simpa [spansFrom] using ih k

theorem spansFrom_raw (h : IsName name) (t : List Char) :
    spansFrom 0 ((placeholder name).raw ++ t) = .placeholder name :: spansFrom 0 t := by
  have hfound := placeholder?_raw h t
  have hdrop : (name ++ '}' :: t).drop (name.length + 1) = t := by
    rw [List.drop_append]
    simp
  simp only [raw, List.cons_append, List.append_assoc, List.nil_append] at hfound ⊢
  rw [spansFrom, hfound]
  simp only
  rw [spansFrom_eq_drop, hdrop]

theorem spansFrom_of_none (h : placeholder? (c :: s) = none) :
    spansFrom 0 (c :: s) = addChar c (spansFrom 0 s) := by
  rw [spansFrom, h]

/-- Induction over a text the way it is cut: it is empty, or a placeholder stands at its front, or a
character that starts none. -/
@[elab_as_elim]
theorem frontInduction {motive : List Char → Prop} (s : List Char) (nil : motive [])
    (raw : ∀ name t, IsName name → motive t → motive ((placeholder name).raw ++ t))
    (char : ∀ c t, placeholder? (c :: t) = none → motive t → motive (c :: t)) : motive s := by
  induction h : s.length using Nat.strongRecOn generalizing s with
  | ind n ih =>
      cases s with
      | nil => exact nil
      | cons c t =>
          cases hfront : placeholder? (c :: t) with
          | none => exact char c t hfront (ih t.length (by simp [← h]) t rfl)
          | some name =>
              obtain ⟨hname, u, hu⟩ := placeholder?_eq_some_iff.mp hfront
              have hlen : u.length < n := by
                rw [← h, hu]
                simp only [Span.raw, List.length_append, List.length_cons]
                omega
              exact hu ▸ raw name u hname (ih u.length hlen u rfl)

theorem flatMap_addChar (f : Span → List Char) (hf : ∀ text, f (.literal text) = text) (c : Char)
    (xs : List Span) : (addChar c xs).flatMap f = c :: xs.flatMap f := by
  rcases xs with _ | ⟨text | name, xs⟩ <;> simp [addChar, hf]

/-- **A text is what its spans stand for.** -/
theorem flatMap_raw_spansFrom (s : List Char) : (spansFrom 0 s).flatMap raw = s := by
  induction s using frontInduction with
  | nil => rfl
  | raw name t hname ih => rw [spansFrom_raw hname, List.flatMap_cons, ih]
  | char c t hnone ih => rw [spansFrom_of_none hnone, flatMap_addChar raw (fun _ => rfl), ih]

theorem addChar_append_placeholder (c : Char) (xs ys : List Span) :
    addChar c (xs ++ .placeholder name :: ys) = addChar c xs ++ .placeholder name :: ys := by
  rcases xs with _ | ⟨text | other, xs⟩ <;> rfl

/-- **A placeholder that stands in a text is one of its spans**, whatever stands before it and
behind it. -/
theorem spansFrom_append (h : IsName name) (s t : List Char) :
    spansFrom 0 (s ++ (placeholder name).raw ++ t) =
      spansFrom 0 s ++ .placeholder name :: spansFrom 0 t := by
  induction s using frontInduction with
  | nil => exact spansFrom_raw h t
  | raw other s hother ih =>
      rw [List.append_assoc, List.append_assoc, spansFrom_raw hother, spansFrom_raw hother,
        ← List.append_assoc, ih, List.cons_append]
  | char c s hnone ih =>
      have hfront : placeholder? (c :: (s ++ (placeholder name).raw ++ t)) = none := by
        rw [← hnone, ← placeholder?_append (List.cons_ne_nil c s) (name ++ '}' :: t)]
        simp [raw]
      rw [List.cons_append, List.cons_append, spansFrom_of_none hfront, ih,
        addChar_append_placeholder, ← spansFrom_of_none hnone]

/-! ## Filled templates -/

/-- Every placeholder of a template has a field with a value. -/
def IsFilled (template : String) (fields : Record) : Prop :=
  ∀ name ∈ placeholders template, fields.getD name ≠ .null

/-- A template is filled where no placeholder stays visible. -/
theorem unresolved_isEmpty_iff {template : String} {fields : Record} :
    (unresolved template fields).isEmpty = true ↔ IsFilled template fields := by
  rw [unresolved, List.isEmpty_iff, List.filter_eq_nil_iff]
  refine forall₂_congr fun name _ => ?_
  rw [Option.isNone_iff_eq_none, value?_eq_none_iff, String.ofList_toList]

/-! ## Replacing placeholders -/

theorem replaceFrom_eq_drop (old new : List Char) (k : Nat) (s : List Char) :
    Text.replaceFrom old new k s = Text.replaceFrom old new 0 (s.drop k) := by
  induction s generalizing k with
  | nil => simp [Text.replaceFrom]
  | cons c rest ih =>
      cases k with
      | zero => rfl
      | succ k => simpa [Text.replaceFrom] using ih k

/-- Nothing is replaced in front of the next opening brace. -/
theorem replaceFrom_append {new : List Char} (h : '{' ∉ s) (t : List Char) :
    Text.replaceFrom (placeholder name).raw new 0 (s ++ t) =
      s ++ Text.replaceFrom (placeholder name).raw new 0 t := by
  induction s with
  | nil => rfl
  | cons c s ih =>
      obtain ⟨hc, hs⟩ := not_or.mp (mt List.mem_cons.mpr h)
      have hfront : (placeholder name).raw.isPrefixOf (c :: (s ++ t)) = false := by
        simp [raw, List.isPrefixOf, hc]
      rw [List.cons_append, Text.replaceFrom, hfront, ih hs]
      simp

theorem placeholder?_of_isPrefixOf (h : IsName name)
    (hs : (placeholder name).raw.isPrefixOf s = true) : placeholder? s = some name := by
  obtain ⟨t, rfl⟩ := List.isPrefixOf_iff_prefix.mp hs
  exact placeholder?_raw h t

/-- **Replacing every occurrence of a placeholder's text fills every span of its name.** -/
theorem replaceFrom_raw (h : IsName name) (new : List Char) (s : List Char) :
    Text.replaceFrom (placeholder name).raw new 0 s =
      (spansFrom 0 s).flatMap (filling (.placeholder name) new raw) := by
  induction s using frontInduction with
  | nil => rfl
  | raw other t hother ih =>
      rw [spansFrom_raw hother, List.flatMap_cons, ← ih]
      by_cases heq : other = name
      · subst heq
        have hfront : (placeholder other).raw.isPrefixOf ('{' :: (other ++ ['}'] ++ t)) = true :=
          List.isPrefixOf_iff_prefix.mpr (List.prefix_append (placeholder other).raw t)
        have hlen : (placeholder other).raw.length - 1 = (other ++ ['}']).length := by simp [raw]
        show Text.replaceFrom _ new 0 ('{' :: (other ++ ['}'] ++ t)) = _
        rw [Text.replaceFrom, if_pos hfront, replaceFrom_eq_drop, hlen, List.drop_left, filling_self]
      · have hfront : (placeholder name).raw.isPrefixOf ('{' :: (other ++ ['}'] ++ t)) = false := by
          refine Bool.eq_false_iff.mpr fun hpre => heq ?_
          have := placeholder?_of_isPrefixOf h hpre
          exact Option.some.inj ((placeholder?_raw hother t).symm.trans this)
        show Text.replaceFrom _ new 0 ('{' :: (other ++ ['}'] ++ t)) = _
        rw [Text.replaceFrom, hfront, replaceFrom_append hother.open_notMem,
          filling_of_ne (by simpa using heq)]
        rfl
  | char c t hnone ih =>
      have hfront : (placeholder name).raw.isPrefixOf (c :: t) = false := by
        refine Bool.eq_false_iff.mpr fun hpre => ?_
        rw [placeholder?_of_isPrefixOf h hpre] at hnone
        cases hnone
      rw [spansFrom_of_none hnone, Text.replaceFrom, hfront, ih, flatMap_addChar _ (fun _ => by
        simp [filling, raw])]
      rfl

end Template
end Triage
