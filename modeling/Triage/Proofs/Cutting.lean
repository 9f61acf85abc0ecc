import Mathlib.Data.List.DropRight
import Triage.Text.Basic

/-!
# What is left of a text that is cut

Characters of a kind are dropped from the end of a text (`Text.dropEndWhile`) or from both ends
(`Text.trimChars`). What is left is said by how the text is put together: of two parts only the
second one loses anything, unless it is dropped as a whole (`Text.dropEndWhile_append`), and what
trimming leaves is the part between space that has none at its own ends (`Text.trimChars_eq_iff`).

Splitting a text at a separator gives its cells (`Text.mem_splitChars_iff`): the stretches without a
separator that reach from one separator, or an end of the text, to the next.
-/

namespace Triage.Text

variable {s t : String} {separator : Char} {whole part cell : List Char}

/-- Of two parts the second one is dropped as a whole, or else the first one stays as it is. -/
theorem dropEndWhile_append (f : Char → Bool) (s t : List Char) :
    dropEndWhile f (s ++ t) = if t.all f then dropEndWhile f s else s ++ dropEndWhile f t := by
  have hall : (t.reverse.dropWhile f).isEmpty = t.all f := by
    rw [Bool.eq_iff_iff, List.isEmpty_iff, List.dropWhile_eq_nil_iff, List.all_eq_true]
    simp only [List.mem_reverse]
  unfold dropEndWhile
  rw [List.reverse_append, List.dropWhile_append, hall]
  split
  · rfl
  · rw [List.reverse_append, List.reverse_reverse]

/-! ## Slashes at the end -/

/-- There is nothing but slashes. -/
def OnlySlashes (s : String) : Prop := ∀ c ∈ s.toList, c = '/'

instance (s : String) : Decidable (OnlySlashes s) :=
  inferInstanceAs (Decidable (∀ c ∈ s.toList, c = '/'))

theorem trimEndSlashes_append_of_onlySlashes (s : String) (h : OnlySlashes t) :
    trimEndSlashes (s ++ t) = trimEndSlashes s := by
  unfold trimEndSlashes
  rw [String.toList_append, dropEndWhile_append, if_pos (by simpa [OnlySlashes] using h)]

theorem trimEndSlashes_append_of_not_onlySlashes (s : String) (h : ¬ OnlySlashes t) :
    trimEndSlashes (s ++ t) = s ++ trimEndSlashes t := by
  unfold trimEndSlashes
  rw [String.toList_append, dropEndWhile_append, if_neg (by simpa [OnlySlashes] using h),
    String.ofList_append, String.ofList_toList]

theorem trimEndSlashes_trimEndSlashes (s : String) :
    trimEndSlashes (trimEndSlashes s) = trimEndSlashes s := by
  rw [trimEndSlashes, trimEndSlashes, String.toList_ofList]
  exact congrArg String.ofList (List.rdropWhile_idempotent _ _)

/-- What is dropped is nothing but slashes. -/
theorem exists_eq_trimEndSlashes (s : String) :
    ∃ slashes, s = trimEndSlashes s ++ slashes ∧ OnlySlashes slashes := by
  refine ⟨String.ofList (s.toList.rtakeWhile (· == '/')), ?_, fun c hc => ?_⟩
  · rw [trimEndSlashes, ← String.ofList_append]
    have hsplit : dropEndWhile (· == '/') s.toList ++ s.toList.rtakeWhile (· == '/') = s.toList :=
      List.rdropWhile_append_rtakeWhile
    rw [hsplit, String.ofList_toList]
  · rw [String.toList_ofList] at hc
    simpa using List.mem_rtakeWhile_imp hc

/-! ## Space at both ends -/

/-- There is nothing but space. -/
def OnlySpace (s : List Char) : Prop := ∀ c ∈ s, isSpace c = true

/-- There is no space at either end. -/
structure IsTrimmed (s : List Char) : Prop where
  head : ∀ c ∈ s.head?, isSpace c = false
  last : ∀ c ∈ s.getLast?, isSpace c = false

/-- The text stands between space, and has none at its own ends. -/
structure IsTrimOf (whole part : List Char) : Prop where
  trimmed : IsTrimmed part
  between : ∃ before after, whole = before ++ part ++ after ∧ OnlySpace before ∧ OnlySpace after

theorem dropEndWhile_of_trimmed {s : List Char} (h : IsTrimmed s) : dropEndWhile isSpace s = s := by
  refine List.rdropWhile_eq_self_iff.mpr fun hne => ?_
  rw [h.last _ (List.getLast?_eq_some_getLast hne)]
  exact Bool.false_ne_true

/-- **What trimming leaves**, where it leaves anything. -/
theorem trimChars_eq_iff (hne : part ≠ []) :
    trimChars whole = part ↔ IsTrimOf whole part := by
  constructor
  · rintro rfl
    have hfront := List.takeWhile_append_dropWhile (p := isSpace) (l := whole)
    have hend : dropEndWhile isSpace (whole.dropWhile isSpace) ++
        (whole.dropWhile isSpace).rtakeWhile isSpace = whole.dropWhile isSpace :=
      List.rdropWhile_append_rtakeWhile
    refine ⟨⟨fun c hc => ?_, fun c hc => ?_⟩, whole.takeWhile isSpace,
      (whole.dropWhile isSpace).rtakeWhile isSpace, ?_, fun c hc => ?_, fun c hc => ?_⟩
    · -- the first character that is left is the first one behind the space in front
      have hstop := List.head?_dropWhile_not isSpace whole
      obtain ⟨rest, hrest⟩ := List.head?_eq_some_iff.mp hc
      rw [← hend, ← trimChars, hrest] at hstop
      simpa using hstop
    · rw [List.getLast?_eq_some_getLast hne] at hc
      obtain rfl := Option.some.inj hc
      exact Bool.eq_false_iff.mpr (List.rdropWhile_last_not isSpace (whole.dropWhile isSpace) hne)
    · rw [List.append_assoc, trimChars, hend, hfront]
    · exact List.mem_takeWhile_imp hc
    · exact List.mem_rtakeWhile_imp hc
  · rintro ⟨htrimmed, before, after, rfl, hbefore, hafter⟩
    obtain ⟨c, rest, rfl⟩ := List.exists_cons_of_ne_nil hne
    rw [trimChars, List.append_assoc, List.dropWhile_append_of_pos hbefore, List.cons_append,
      List.dropWhile_cons_of_neg (by rw [htrimmed.head c rfl]; exact Bool.false_ne_true),
      ← List.cons_append, dropEndWhile_append, if_pos (List.all_eq_true.mpr hafter),
      dropEndWhile_of_trimmed htrimmed]

/-! ## Cells between separators -/

theorem splitChars_ne_nil (separator : Char) (s : List Char) : splitChars separator s ≠ [] := by
  cases s with
  | nil => simp [splitChars]
  | cons c rest =>
      unfold splitChars
      split
      · simp
      · split <;> simp

theorem splitChars_separator (separator : Char) (s : List Char) :
    splitChars separator (separator :: s) = [] :: splitChars separator s := by
  rw [splitChars]
  cases h : splitChars separator s with
  | nil => exact absurd h (splitChars_ne_nil separator s)
  | cons part parts => simp

/-- The splits of two texts with a separator between them are those of the one and of the other. -/
theorem splitChars_append (separator : Char) (s t : List Char) :
    splitChars separator (s ++ separator :: t) =
      splitChars separator s ++ splitChars separator t := by
  induction s with
  | nil => exact splitChars_separator separator t
  | cons c s ih =>
      rw [List.cons_append, splitChars, splitChars, ih]
      cases h : splitChars separator s with
      | nil => exact absurd h (splitChars_ne_nil separator s)
      | cons part parts =>
          rw [List.cons_append]
          dsimp only
          split
          · rfl
          · rfl

theorem splitChars_of_notMem {s : List Char} (h : separator ∉ s) :
    splitChars separator s = [s] := by
  induction s with
  | nil => rfl
  | cons c s ih =>
      rw [List.mem_cons, not_or] at h
      rw [splitChars, ih h.2]
      exact if_neg (Ne.symm h.1)

/-- A stretch of a text without a separator, from one separator or end to the next. -/
structure IsCell (separator : Char) (whole cell : List Char) : Prop where
  undivided : separator ∉ cell
  stands : ∃ front back, whole = front ++ cell ++ back ∧
    (∀ c ∈ front.getLast?, c = separator) ∧ (∀ c ∈ back.head?, c = separator)

/-- A cell of one of two texts with a separator between them is a cell of the whole. -/
theorem IsCell.append_left {s : List Char} (h : IsCell separator s cell) (t : List Char) :
    IsCell separator (s ++ separator :: t) cell := by
  obtain ⟨hcell, front, back, rfl, hfront, hback⟩ := h
  refine ⟨hcell, front, back ++ separator :: t, by simp, hfront, fun c hc => ?_⟩
  cases back with
  | nil => exact (Option.some.inj hc).symm
  | cons b back => exact hback c hc

theorem IsCell.append_right {t : List Char} (h : IsCell separator t cell) (s : List Char) :
    IsCell separator (s ++ separator :: t) cell := by
  obtain ⟨hcell, front, back, rfl, hfront, hback⟩ := h
  refine ⟨hcell, s ++ separator :: front, back, by simp, fun c hc => ?_, hback⟩
  rw [List.getLast?_append_cons] at hc
  cases front with
  | nil => exact (Option.some.inj hc).symm
  | cons f front => exact hfront c hc

theorem isCell_self (h : separator ∉ whole) : IsCell separator whole whole :=
  ⟨h, [], [], by simp, by simp, by simp⟩

/-- **Splitting gives the cells.** -/
theorem mem_splitChars_iff : cell ∈ splitChars separator whole ↔ IsCell separator whole cell := by
  constructor
  · -- the text is one cell, or a separator cuts it into two shorter texts
    induction hlength : whole.length using Nat.strong_induction_on generalizing whole with
    | _ n ih =>
      intro hmem
      by_cases hsep : separator ∈ whole
      · obtain ⟨s, t, rfl, hs⟩ := List.eq_append_cons_of_mem hsep
        rw [List.length_append, List.length_cons] at hlength
        rw [splitChars_append, List.mem_append] at hmem
        rcases hmem with hmem | hmem
        · exact (ih s.length (by omega) rfl hmem).append_left t
        · exact (ih t.length (by omega) rfl hmem).append_right s
      · rw [splitChars_of_notMem hsep, List.mem_singleton] at hmem
        rw [hmem]
        exact isCell_self hsep
  · rintro ⟨hcell, front, back, rfl, hfront, hback⟩
    have hmem : cell ∈ splitChars separator (cell ++ back) := by
      cases back with
      | nil => simp [splitChars_of_notMem hcell]
      | cons b back =>
          obtain rfl := hback b rfl
          simp [splitChars_append, splitChars_of_notMem hcell]
    rcases List.eq_nil_or_concat front with rfl | ⟨before, f, rfl⟩
    · exact hmem
    · rw [List.concat_eq_append] at hfront ⊢
      obtain rfl := hfront f List.getLast?_concat
      rw [List.append_assoc, List.append_assoc, List.singleton_append, splitChars_append]
      exact List.mem_append_right _ hmem

end Triage.Text
