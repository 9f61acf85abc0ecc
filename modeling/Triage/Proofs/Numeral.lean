import Mathlib.Data.List.TakeWhile
import Triage.Decimal.Numeral

/-!
# Digits and points as numbers

What a pattern for a number captures is often no more than digits and points. Such a text is a number
exactly if it has a digit and no second point (`Numeral.captured?_isSome_iff`); in what order they
stand, and of what script the digits are, does not matter. Which number it is then is what its digits
write (`Numeral.captured?_of_writes`).
-/

namespace Triage.Numeral

open Text

/-- A digit of ASCII or a point. -/
def IsFigure (c : Char) : Prop := isAsciiDigit c = true ∨ c = '.'

instance (c : Char) : Decidable (IsFigure c) :=
  inferInstanceAs (Decidable (isAsciiDigit c = true ∨ c = '.'))

variable {whole fraction more s : List Char}

/-! ## ASCII -/

theorem ne_point_of_isAsciiDigit {c : Char} (h : isAsciiDigit c = true) : c ≠ '.' := by
  rintro rfl
  cases h

theorem unsigned?_digits (hwhole : ∀ c ∈ whole, isAsciiDigit c = true) :
    (unsigned? whole).isSome = true ↔ whole ≠ [] := by
  have htake : whole.takeWhile isAsciiDigit = whole := List.takeWhile_eq_self_iff.mpr hwhole
  have hdrop : whole.dropWhile isAsciiDigit = [] := List.dropWhile_eq_nil_iff.mpr hwhole
  rw [unsigned?, htake, hdrop]
  dsimp only
  rw [List.append_nil]
  by_cases h : whole = []
  · simp [h]
  · simp [h]

/-- What follows a point is digits and perhaps an exponent. -/
theorem unsigned?_append_point (hwhole : ∀ c ∈ whole, isAsciiDigit c = true) (rest : List Char) :
    unsigned? (whole ++ '.' :: rest) =
      if whole ++ rest.takeWhile isAsciiDigit = [] then none
      else
        let n := natOfDigits (whole ++ rest.takeWhile isAsciiDigit)
        let places : Int := (rest.takeWhile isAsciiDigit).length
        match rest.dropWhile isAsciiDigit with
        | [] => some (n, -places)
        | c :: rest =>
          if c = 'e' ∨ c = 'E' then (exponent? rest).map fun e => (n, e - places) else none := by
  have htake : (whole ++ '.' :: rest).takeWhile isAsciiDigit = whole := by
    rw [List.takeWhile_append_of_pos hwhole, List.takeWhile_cons_of_neg (by decide),
      List.append_nil]
  have hdrop : (whole ++ '.' :: rest).dropWhile isAsciiDigit = '.' :: rest := by
    rw [List.dropWhile_append_of_pos hwhole, List.dropWhile_cons_of_neg (by decide)]
  rw [unsigned?, htake, hdrop]
  rfl

theorem unsigned?_point (hwhole : ∀ c ∈ whole, isAsciiDigit c = true)
    (hfraction : ∀ c ∈ fraction, isAsciiDigit c = true) :
    (unsigned? (whole ++ '.' :: fraction)).isSome = true ↔ whole ++ fraction ≠ [] := by
  have htake : fraction.takeWhile isAsciiDigit = fraction :=
    List.takeWhile_eq_self_iff.mpr hfraction
  have hdrop : fraction.dropWhile isAsciiDigit = [] := List.dropWhile_eq_nil_iff.mpr hfraction
  rw [unsigned?_append_point hwhole, htake, hdrop]
  by_cases h : whole ++ fraction = []
  · rw [if_pos h]
    exact iff_of_false (by decide) (not_not_intro h)
  · rw [if_neg h]
    exact iff_of_true rfl h

/-- With a second point it is no number. -/
theorem unsigned?_points (hwhole : ∀ c ∈ whole, isAsciiDigit c = true)
    (hfraction : ∀ c ∈ fraction, isAsciiDigit c = true) :
    unsigned? (whole ++ '.' :: (fraction ++ '.' :: more)) = none := by
  have hdrop : (fraction ++ '.' :: more).dropWhile isAsciiDigit = '.' :: more := by
    rw [List.dropWhile_append_of_pos hfraction, List.dropWhile_cons_of_neg (by decide)]
  rw [unsigned?_append_point hwhole, hdrop]
  split
  · rfl
  · -- the second point would have to start an exponent
    exact if_neg (by decide)

/-- Figures are digits alone, or digits up to a point and figures behind it. -/
theorem digits_or_points (h : ∀ c ∈ s, IsFigure c) :
    (∀ c ∈ s, isAsciiDigit c = true) ∨
      ∃ whole rest, s = whole ++ '.' :: rest ∧ (∀ c ∈ whole, isAsciiDigit c = true) ∧
        ∀ c ∈ rest, IsFigure c := by
  have hsplit : s = s.takeWhile isAsciiDigit ++ s.dropWhile isAsciiDigit :=
    List.takeWhile_append_dropWhile.symm
  cases hdrop : s.dropWhile isAsciiDigit with
  | nil => exact .inl (List.dropWhile_eq_nil_iff.mp hdrop)
  | cons c rest =>
      have hc : isAsciiDigit c ≠ true := by
        have hhead := List.head?_dropWhile_not isAsciiDigit s
        rw [hdrop] at hhead
        simpa using hhead
      rw [hdrop] at hsplit
      have hfigure : ∀ d ∈ c :: rest, IsFigure d := fun d hd =>
        h d (hsplit ▸ List.mem_append_right _ hd)
      obtain ⟨hhead, hrest⟩ := List.forall_mem_cons.mp hfigure
      obtain rfl : c = '.' := hhead.resolve_left hc
      exact .inr ⟨_, rest, hsplit, fun d hd => List.mem_takeWhile_imp hd, hrest⟩

theorem count_point_of_digits (h : ∀ c ∈ s, isAsciiDigit c = true) : s.count '.' = 0 :=
  List.count_eq_zero.mpr fun hmem => ne_point_of_isAsciiDigit (h _ hmem) rfl

/-- **Figures are a number exactly if there is a digit and no second point.** -/
theorem unsigned?_isSome_iff (h : ∀ c ∈ s, IsFigure c) :
    (unsigned? s).isSome = true ↔ (∃ c ∈ s, isAsciiDigit c = true) ∧ s.count '.' ≤ 1 := by
  rcases digits_or_points h with hdigits | ⟨whole, rest, rfl, hwhole, hrest⟩
  · rw [unsigned?_digits hdigits, count_point_of_digits hdigits]
    constructor
    · intro hne
      obtain ⟨c, hc⟩ := List.exists_mem_of_ne_nil s hne
      exact ⟨⟨c, hc, hdigits c hc⟩, Nat.zero_le _⟩
    · rintro ⟨⟨c, hc, -⟩, -⟩
      exact List.ne_nil_of_mem hc
  · have hzero := count_point_of_digits hwhole
    rcases digits_or_points hrest with hdigits | ⟨fraction, more, rfl, hfraction, -⟩
    · have hone : (whole ++ '.' :: rest).count '.' = 1 := by
        rw [List.count_append, hzero, List.count_cons_self, count_point_of_digits hdigits]
      rw [unsigned?_point hwhole hdigits, hone]
      constructor
      · intro hne
        obtain ⟨c, hc⟩ := List.exists_mem_of_ne_nil _ hne
        rcases List.mem_append.mp hc with hmem | hmem
        · exact ⟨⟨c, List.mem_append_left _ hmem, hwhole c hmem⟩, Nat.le_refl _⟩
        · exact ⟨⟨c, List.mem_append_right _ (List.mem_cons_of_mem _ hmem), hdigits c hmem⟩,
            Nat.le_refl _⟩
      · rintro ⟨⟨c, hc, hdigit⟩, -⟩
        have hne := ne_point_of_isAsciiDigit hdigit
        refine List.ne_nil_of_mem (a := c) ?_
        simpa [hne] using hc
    · rw [unsigned?_points hwhole hfraction]
      have htwo : 2 ≤ (whole ++ '.' :: (fraction ++ '.' :: more)).count '.' := by
        rw [List.count_append, List.count_cons_self, List.count_append, List.count_cons_self]
        omega
      constructor
      · intro hnone
        cases hnone
      · rintro ⟨-, hle⟩
        omega

/-! ## Readers that know more than figures -/

theorem toNat_of_isFigure {c : Char} (h : IsFigure c) : 46 ≤ c.toNat ∧ c.toNat ≤ 57 := by
  rcases h with hdigit | rfl
  · rw [isAsciiDigit, isAsciiDigitPoint, Bool.and_eq_true, decide_eq_true_eq,
      decide_eq_true_eq] at hdigit
    omega
  · decide

/-- Figures have no case. -/
theorem map_lower_of_figures (h : ∀ c ∈ s, IsFigure c) :
    s.map (fun c => Char.ofNat (asciiLowerPoint c.toNat)) = s := by
  have hlower : ∀ c ∈ s, Char.ofNat (asciiLowerPoint c.toNat) = id c := by
    intro c hc
    have hbounds := toNat_of_isFigure (h c hc)
    rw [asciiLowerPoint, if_neg (by omega), Char.ofNat_toNat, id]
  rw [List.map_congr_left hlower, List.map_id]

/-- Figures are neither a sign nor one of the words for numbers. -/
theorem number?_of_figures (h : ∀ c ∈ s, IsFigure c) :
    number? s = (unsigned? s).map fun (n, e) => Binary64.ofDecimal false n e := by
  have hword (word : List Char) (c : Char) (hc : c ∈ word) (hfigure : ¬ IsFigure c) : s ≠ word := by
    rintro rfl
    exact hfigure (h c hc)
  have hmagnitude : magnitude? false s =
      (unsigned? s).map fun (n, e) => Binary64.ofDecimal false n e := by
    rw [magnitude?, map_lower_of_figures h]
    dsimp only
    rw [if_neg, if_neg]
    · exact hword _ 'a' (by decide) (by decide)
    · exact not_or.mpr ⟨hword _ 'i' (by decide) (by decide), hword _ 'i' (by decide) (by decide)⟩
  unfold number?
  split
  · exact absurd (h '-' List.mem_cons_self) (by decide)
  · exact absurd (h '+' List.mem_cons_self) (by decide)
  · exact hmagnitude

/-! ## Digits of any script -/

/-- A digit of any script or a point. -/
def IsDigitOrPoint (c : Char) : Prop := isDecimalPoint c.toNat = true ∨ c = '.'

theorem isAsciiDigit_of_isDecimalPoint {c : Char} (hc : isDecimalPoint c.toNat = true)
    (hlt : c.toNat < 128) : isAsciiDigit c = true := by
  rw [isDecimalPoint, decimalValue?] at hc
  split at hc
  · assumption
  · cases hc

/-- No digit of any script is space. -/
theorem isSpacePoint_digit : ∀ z ∈ Table.decimalZero, ∀ d ≤ 9, isSpacePoint (z + d) = false := by
  decide +kernel

/-- A digit of any script counts as the one of ASCII. -/
theorem isAsciiDigit_plainChar {c : Char} (hc : isDecimalPoint c.toNat = true) :
    isAsciiDigit (plainChar c) = true := by
  by_cases hlt : c.toNat < 128
  · have hdigit := isAsciiDigit_of_isDecimalPoint hc hlt
    have hbounds := toNat_of_isFigure (.inl hdigit)
    rwa [plainChar, if_pos (by omega)]
  · have hplain : isAsciiDigitPoint c.toNat ≠ true := by
      rw [isAsciiDigitPoint, ne_eq, Bool.and_eq_true, decide_eq_true_eq, decide_eq_true_eq]
      omega
    have hvalue : decimalValue? c.toNat =
        (Table.decimalZero.find? fun z => z ≤ c.toNat && c.toNat ≤ z + 9).map (c.toNat - ·) := by
      rw [decimalValue?, if_neg hplain, if_neg hlt]
    rw [isDecimalPoint, hvalue, Option.isSome_map, Option.isSome_iff_exists] at hc
    obtain ⟨z, hz⟩ := hc
    have hbounds := List.find?_some hz
    rw [Bool.and_eq_true, decide_eq_true_eq, decide_eq_true_eq] at hbounds
    -- a digit is known by its distance from the zero of its script
    have hspace : isSpace c = false := by
      have htable := isSpacePoint_digit z (List.mem_of_find?_eq_some hz) (c.toNat - z) (by omega)
      rwa [Nat.add_sub_cancel' hbounds.1] at htable
    have hshown : ∀ d ≤ 9, isAsciiDigit (Char.ofNat (48 + d)) = true := by decide
    rw [plainChar, if_neg (by omega), hspace, if_neg (by decide), hvalue, hz]
    show isAsciiDigit (Char.ofNat (48 + (c.toNat - z))) = true
    exact hshown _ (by omega)

/-- Digits and points become figures. -/
theorem isFigure_plainChar {c : Char} (h : IsDigitOrPoint c) : IsFigure (plainChar c) := by
  rcases h with hdigit | rfl
  · exact .inl (isAsciiDigit_plainChar hdigit)
  · decide

theorem isAsciiDigit_plainChar_iff {c : Char} (h : IsDigitOrPoint c) :
    isAsciiDigit (plainChar c) = true ↔ isDecimalPoint c.toNat = true := by
  rcases h with hdigit | rfl
  · exact iff_of_true (isAsciiDigit_plainChar hdigit) hdigit
  · decide

theorem plainChar_eq_point_iff {c : Char} (h : IsDigitOrPoint c) : plainChar c = '.' ↔ c = '.' := by
  rcases h with hdigit | rfl
  · have hne : c ≠ '.' := by
      rintro rfl
      exact absurd hdigit (by decide)
    exact iff_of_false (ne_point_of_isAsciiDigit (isAsciiDigit_plainChar hdigit)) hne
  · decide

theorem plainChar_of_lt {c : Char} (h : IsDigitOrPoint c) (hlt : c.toNat < 128) :
    plainChar c = c := by
  rcases h with hdigit | rfl
  · have hbounds := toNat_of_isFigure (.inl (isAsciiDigit_of_isDecimalPoint hdigit hlt))
    rw [plainChar, if_pos (by omega)]
  · rfl

/-- Around figures there is no space to drop. -/
theorem dropEndWhile_dropWhile_of_figures (h : ∀ c ∈ s, IsFigure c) :
    dropEndWhile isAsciiSpace (s.dropWhile isAsciiSpace) = s := by
  have hspace : ∀ c ∈ s, isAsciiSpace c ≠ true := by
    intro c hc
    have hbounds := toNat_of_isFigure (h c hc)
    have hne : c ≠ ' ' := by
      rintro rfl
      exact absurd (h _ hc) (by decide)
    simp only [isAsciiSpace, ne_eq, Bool.or_eq_true, Bool.and_eq_true, decide_eq_true_eq,
      beq_iff_eq, hne, or_false]
    omega
  have hdrop {l : List Char} (hl : ∀ c ∈ l, isAsciiSpace c ≠ true) :
      l.dropWhile isAsciiSpace = l := by
    cases l with
    | nil => rfl
    | cons c rest => exact List.dropWhile_cons_of_neg (hl c List.mem_cons_self)
  rw [hdrop hspace, dropEndWhile, hdrop (fun c hc => hspace c (List.mem_reverse.mp hc)),
    List.reverse_reverse]

theorem figures_of_digits (h : ∀ c ∈ s, IsDigitOrPoint c) : ∀ c ∈ s.map plainChar, IsFigure c := by
  intro c hc
  obtain ⟨d, hd, rfl⟩ := List.mem_map.mp hc
  exact isFigure_plainChar (h d hd)

theorem captured?_of_digits (h : ∀ c ∈ s, IsDigitOrPoint c) :
    captured? (String.ofList s) =
      (unsigned? (s.map plainChar)).map fun (n, e) => Binary64.ofDecimal false n e := by
  have hfigures := figures_of_digits h
  have hplain : (if s.all fun c => c.toNat < 128 then s else s.map plainChar) =
      s.map plainChar := by
    split
    · rename_i hall
      have hsame : ∀ c ∈ s, plainChar c = id c := fun c hc =>
        plainChar_of_lt (h c hc) (by simpa using List.all_eq_true.mp hall c hc)
      rw [List.map_congr_left hsame, List.map_id]
    · rfl
  have hline : '_' ∉ s.map plainChar := fun hmem => absurd (hfigures _ hmem) (by decide)
  rw [captured?, String.toList_ofList]
  dsimp only
  rw [hplain, dropEndWhile_dropWhile_of_figures hfigures, if_neg hline,
    number?_of_figures hfigures]

/-- **Digits of any script and points are a number exactly if there is a digit and no second
point.** -/
theorem captured?_isSome_iff (h : ∀ c ∈ s, IsDigitOrPoint c) :
    (captured? (String.ofList s)).isSome = true ↔
      (∃ c ∈ s, isDecimalPoint c.toNat = true) ∧ s.count '.' ≤ 1 := by
  have hfigures := figures_of_digits h
  have hcount : (s.map plainChar).count '.' = s.count '.' := by
    rw [List.count_eq_countP, List.count_eq_countP, List.countP_map]
    refine List.countP_congr fun c hc => ?_
    simpa using plainChar_eq_point_iff (h c hc)
  have hdigit : (∃ c ∈ s.map plainChar, isAsciiDigit c = true) ↔
      ∃ c ∈ s, isDecimalPoint c.toNat = true := by
    constructor
    · rintro ⟨_, hmem, hdigit⟩
      obtain ⟨c, hc, rfl⟩ := List.mem_map.mp hmem
      exact ⟨c, hc, (isAsciiDigit_plainChar_iff (h c hc)).mp hdigit⟩
    · rintro ⟨c, hc, hdigit⟩
      exact ⟨plainChar c, List.mem_map_of_mem hc, isAsciiDigit_plainChar hdigit⟩
  rw [captured?_of_digits h, Option.isSome_map, unsigned?_isSome_iff hfigures, hcount, hdigit]

/-! ## The number that digits write -/

/-- ASCII digits, of which some may stand behind a point, write the number `n * 10 ^ e`. -/
inductive Writes : List Char → Nat → Int → Prop where
  | whole {whole : List Char} : whole ≠ [] → (∀ c ∈ whole, isAsciiDigit c = true) →
      Writes whole (natOfDigits whole) 0
  | point {whole fraction : List Char} : whole ++ fraction ≠ [] →
      (∀ c ∈ whole, isAsciiDigit c = true) → (∀ c ∈ fraction, isAsciiDigit c = true) →
      Writes (whole ++ '.' :: fraction) (natOfDigits (whole ++ fraction)) (-fraction.length)

variable {n : Nat} {e : Int}

theorem Writes.isFigure (h : Writes s n e) : ∀ c ∈ s, IsFigure c := by
  intro c hc
  cases h with
  | whole _ hwhole => exact .inl (hwhole c hc)
  | point _ hwhole hfraction =>
      rcases List.mem_append.mp hc with hmem | hmem
      · exact .inl (hwhole c hmem)
      · rcases List.mem_cons.mp hmem with rfl | hmem
        · exact .inr rfl
        · exact .inl (hfraction c hmem)

theorem Writes.unsigned? (h : Writes s n e) : unsigned? s = some (n, e) := by
  cases h with
  | whole hne hwhole =>
      have htake : s.takeWhile isAsciiDigit = s := List.takeWhile_eq_self_iff.mpr hwhole
      have hdrop : s.dropWhile isAsciiDigit = [] := List.dropWhile_eq_nil_iff.mpr hwhole
      rw [Numeral.unsigned?, htake, hdrop]
      dsimp only
      rw [List.append_nil, if_neg hne]
      rfl
  | point hne hwhole hfraction =>
      rename_i whole fraction
      have htake : fraction.takeWhile isAsciiDigit = fraction :=
        List.takeWhile_eq_self_iff.mpr hfraction
      have hdrop : fraction.dropWhile isAsciiDigit = [] := List.dropWhile_eq_nil_iff.mpr hfraction
      rw [unsigned?_append_point hwhole, htake, hdrop, if_neg hne]

/-- A figure is a digit of some script or a point, and plain already. -/
theorem isDigitOrPoint_of_isFigure {c : Char} (h : IsFigure c) : IsDigitOrPoint c := by
  rcases h with hdigit | rfl
  · refine .inl ?_
    rw [isAsciiDigit] at hdigit
    rw [isDecimalPoint, decimalValue?, if_pos hdigit]
    rfl
  · exact .inr rfl

theorem map_plainChar_of_figures (h : ∀ c ∈ s, IsFigure c) : s.map plainChar = s := by
  have hplain : ∀ c ∈ s, plainChar c = id c := by
    intro c hc
    have hbounds := toNat_of_isFigure (h c hc)
    exact plainChar_of_lt (isDigitOrPoint_of_isFigure (h c hc)) (by omega)
  rw [List.map_congr_left hplain, List.map_id]

/-- **A text of digits is the number that they write.** -/
theorem captured?_of_writes (h : Writes s n e) :
    captured? (String.ofList s) = some (Binary64.ofDecimal false n e) := by
  have hfigures := h.isFigure
  rw [captured?_of_digits fun c hc => isDigitOrPoint_of_isFigure (hfigures c hc),
    map_plainChar_of_figures hfigures, h.unsigned?]
  rfl

end Triage.Numeral
