import Triage.Proofs.Literal
import Triage.Proofs.Words

/-!
# Keywords and the words of a text

A keyword without space never reaches over a space, so it occurs in a text exactly where it occurs
in one of the text's words (`Keyword.occurs_iff_words`). Three things make this so: no character
counts as a space but a space (`Regex.isSpace_of_equals`), a space belongs to no word, and a
boundary is told by its two neighbours alone, so it stays one in a longer text
(`Regex.isBoundary_left_iff`, `Regex.isBoundary_right_iff`).

What is left is a keyword that is a word itself. It occurs there exactly where it begins and ends
with characters of words (`Keyword.occurs_self_iff`): next to any other character a space makes no
boundary. Such a keyword is not found where it stands alone, and a guard that excludes it lets the
text pass (`Keyword.isSoughtByWord`).
-/

namespace Triage

namespace Text

/-! ## Space has no case and belongs to no word -/

/-- The code points of space. -/
def spacePoints : List Nat :=
  [9, 10, 11, 12, 13, 28, 29, 30, 31, 32, 0x85, 0xa0, 0x1680, 0x2000, 0x2001, 0x2002, 0x2003,
    0x2004, 0x2005, 0x2006, 0x2007, 0x2008, 0x2009, 0x200a, 0x2028, 0x2029, 0x202f, 0x205f, 0x3000]

theorem mem_spacePoints {n : Nat} (h : isSpacePoint n = true) : n ∈ spacePoints := by
  simp only [isSpacePoint, isBlankPoint, Bool.or_eq_true, Bool.and_eq_true, decide_eq_true_eq,
    beq_iff_eq] at h
  simp only [spacePoints, List.mem_cons, List.not_mem_nil, or_false]
  omega

theorem isWord_eq_false {c : Char} (h : isSpace c = true) : isWord c = false := by
  have hpoints : ∀ n ∈ spacePoints, isWordPoint n = false := by decide +kernel
  exact hpoints _ (mem_spacePoints h)

theorem lowerPoint_of_space {n : Nat} (h : isSpacePoint n = true) : lowerPoint n = n := by
  have hpoints : ∀ n ∈ spacePoints, lowerPoint n = n := by decide +kernel
  exact hpoints _ (mem_spacePoints h)

/-- No run of letters is moved onto a space. -/
theorem not_isSpacePoint_of_shift {run : Table.Run} (hrun : run ∈ Table.lower) {n : Nat}
    (hfirst : run.first ≤ n) (hlast : n ≤ run.last) :
    isSpacePoint ((n : Int) + run.shift).toNat = false := by
  have hruns : ∀ run ∈ Table.lower, ∀ s ∈ spacePoints,
      ¬ ((run.first : Int) + run.shift ≤ s ∧ (s : Int) ≤ run.last + run.shift) := by
    decide +kernel
  have hpositive : ∀ s ∈ spacePoints, 0 < s := by decide
  refine Bool.eq_false_iff.mpr fun hspace => hruns run hrun _ (mem_spacePoints hspace) ?_
  have hpos := hpositive _ (mem_spacePoints hspace)
  omega

/-- Nothing but space has a space as its lower case. -/
theorem isSpacePoint_of_lower {n : Nat} (h : isSpacePoint (lowerPoint n) = true) :
    isSpacePoint n = true := by
  by_cases hascii : n < 128
  · rw [lowerPoint, if_pos hascii] at h
    simp only [asciiLowerPoint, isSpacePoint, isBlankPoint] at h ⊢
    grind
  · rw [lowerPoint, if_neg hascii, shiftIn] at h
    split at h
    · rename_i run hfind
      have hbounds := List.find?_some hfind
      simp only [Bool.and_eq_true, decide_eq_true_eq] at hbounds
      rw [not_isSpacePoint_of_shift (List.mem_of_find?_eq_some hfind) hbounds.1.1 hbounds.1.2] at h
      cases h
    · simpa using h

/-- No space equals another character when case is ignored. -/
theorem not_isSpacePoint_of_equalCase {n m : Nat} (h : m ∈ equalCase n) :
    isSpacePoint m = false := by
  have htable : ∀ entry ∈ Table.equalCase, ∀ m ∈ entry.2, isSpacePoint m = false := by
    decide +kernel
  unfold equalCase at h
  cases hlookup : Table.equalCase.lookup n with
  | none => rw [hlookup] at h; cases h
  | some partners =>
      rw [hlookup] at h
      obtain ⟨before, after, hsplit, -⟩ := List.lookup_eq_some_iff.mp hlookup
      have hentry : (n, partners) ∈ Table.equalCase := by
        rw [hsplit]
        exact List.mem_append_right _ List.mem_cons_self
      exact htable _ hentry _ h

end Text

namespace Regex

open Text

variable {l r s text : List Char} {c d x : Char} {i pos : Nat}

theorem equals_refl (c : Char) : Equals c c := by
  unfold Equals CaseRule.same
  split <;> simp

/-- No character counts as a space but a space. -/
theorem isSpace_of_equals (h : Equals c d) (hd : isSpace d = true) : isSpace c = true := by
  unfold Equals CaseRule.same at h
  split at h
  · have hlower : CaseRule.ignore.fold d.toNat = d.toNat := lowerPoint_of_space hd
    rw [hlower, Bool.or_eq_true, beq_iff_eq, List.contains_iff_mem] at h
    rcases h with hfold | hpartner
    · have hsource : isSpacePoint (lowerPoint c.toNat) = true := by
        rw [show lowerPoint c.toNat = d.toNat from hfold.symm]
        exact hd
      exact isSpacePoint_of_lower hsource
    · have hnot : isSpace d = false := not_isSpacePoint_of_equalCase hpartner
      rw [hd] at hnot
      cases hnot
  · rw [beq_iff_eq] at h
    rw [isSpace, ← h]
    exact hd

/-! ## A space cuts a text in two -/

theorem isWordAt_left_iff (hx : isWord x = false) (hi : i ≤ l.length) :
    IsWordAt (l ++ x :: r) i ↔ IsWordAt l i := by
  unfold IsWordAt
  rcases Nat.lt_or_eq_of_le hi with hlt | rfl
  · rw [List.getElem?_append_left hlt]
  · simp [hx]

theorem isWordAt_right_iff : IsWordAt (l ++ x :: r) (l.length + 1 + i) ↔ IsWordAt r i := by
  unfold IsWordAt
  rw [List.getElem?_append_right (by omega), Nat.add_assoc, Nat.add_sub_cancel_left, Nat.add_comm 1,
    List.getElem?_cons_succ]

/-- What stands in front of a space has the boundaries that it has alone. -/
theorem isBoundary_left_iff (hx : isWord x = false) (hpos : pos ≤ l.length) :
    IsBoundary (l ++ x :: r) pos ↔ IsBoundary l pos := by
  unfold IsBoundary
  rw [isWordAt_left_iff hx hpos, isWordAt_left_iff hx (by omega)]

/-- What stands behind a space has the boundaries that it has alone. -/
theorem isBoundary_right_iff (hx : isWord x = false) :
    IsBoundary (l ++ x :: r) (l.length + 1 + i) ↔ IsBoundary r i := by
  unfold IsBoundary
  rw [isWordAt_right_iff, Nat.add_right_comm, Nat.add_sub_cancel]
  rcases Nat.eq_zero_or_pos i with rfl | hpos
  · -- in front of it there is a space in the one text and nothing in the other
    have hspace : ¬ IsWordAt (l ++ x :: r) l.length := by simp [IsWordAt, hx]
    simp only [Nat.add_zero, hspace, and_false, Nat.lt_irrefl, false_and]
  · have hbefore : l.length + i = l.length + 1 + (i - 1) := by omega
    rw [hbefore, isWordAt_right_iff]
    simp only [hpos, Nat.zero_lt_succ, true_and]

theorem hasAt_left_iff (hpos : pos + s.length ≤ l.length) :
    HasAt (l ++ x :: r) s pos ↔ HasAt l s pos := by
  unfold HasAt
  rw [List.drop_append_of_le_length (by omega), List.take_append_of_le_length (by simp; omega)]

theorem hasAt_right_iff : HasAt (l ++ x :: r) s (l.length + 1 + i) ↔ HasAt r s i := by
  have hdrop : (l ++ x :: r).drop (l.length + 1 + i) = r.drop i := by
    rw [Nat.add_assoc, List.drop_length_add_append, Nat.add_comm, List.drop_succ_cons]
  unfold HasAt
  rw [hdrop]

/-- Each of the characters that stand in the text has its own there. -/
theorem HasAt.exists_equals {k : Nat} (h : HasAt text s pos) (hc : s[k]? = some c) :
    ∃ d, text[pos + k]? = some d ∧ Equals c d := by
  induction s generalizing pos k with
  | nil => cases hc
  | cons first s ih =>
      obtain ⟨d, hd, hfirst, hrest⟩ := hasAt_cons_iff.mp h
      cases k with
      | zero =>
          obtain rfl := Option.some.inj hc
          exact ⟨d, hd, hfirst⟩
      | succ k =>
          rw [← Nat.add_assoc, Nat.add_right_comm]
          exact ih hrest hc

/-- Characters without space stand in front of a space or behind it. -/
theorem HasAt.apart (h : HasAt (l ++ x :: r) s pos) (hx : isSpace x = true)
    (hs : ∀ c ∈ s, isSpace c = false) : pos + s.length ≤ l.length ∨ l.length + 1 ≤ pos := by
  by_contra hover
  have hk : l.length - pos < s.length := by omega
  obtain ⟨d, hd, hequals⟩ := h.exists_equals (List.getElem?_eq_getElem hk)
  rw [show pos + (l.length - pos) = l.length by omega, List.getElem?_append_right (Nat.le_refl _),
    Nat.sub_self, List.getElem?_cons_zero] at hd
  obtain rfl := Option.some.inj hd
  have hspace := isSpace_of_equals hequals hx
  rw [hs _ (List.getElem_mem hk)] at hspace
  cases hspace

end Regex

namespace Keyword

open Regex Text

variable {keyword text a b : String} {x : Char} {pos : Nat}

/-- A keyword without space stands in one of the two texts that a space leaves, or in neither. -/
theorem standsAt_split_iff (hkeyword : isSolid keyword = true) (hx : isSpace x = true)
    (h : text.toList = a.toList ++ x :: b.toList) :
    StandsAt text keyword pos ↔
      StandsAt a keyword pos ∨
        ∃ i, pos = a.toList.length + 1 + i ∧ StandsAt b keyword i := by
  have hword := isWord_eq_false hx
  constructor
  · rintro ⟨hcharacters, hstart, hstop⟩
    rw [h] at hcharacters hstart hstop
    rcases hcharacters.apart hx (isSolid_iff.mp hkeyword) with hleft | hright
    · exact .inl
        { characters := (hasAt_left_iff hleft).mp hcharacters
          start := (isBoundary_left_iff hword (by omega)).mp hstart
          stop := (isBoundary_left_iff hword hleft).mp hstop }
    · obtain ⟨i, rfl⟩ := Nat.exists_eq_add_of_le hright
      rw [Nat.add_assoc] at hstop
      exact .inr ⟨i, rfl,
        { characters := hasAt_right_iff.mp hcharacters
          start := (isBoundary_right_iff hword).mp hstart
          stop := (isBoundary_right_iff hword).mp hstop }⟩
  · rintro (⟨hcharacters, hstart, hstop⟩ | ⟨i, rfl, hcharacters, hstart, hstop⟩)
    · have hleft := le_of_isBoundary hstop
      constructor <;> rw [h]
      · exact (hasAt_left_iff hleft).mpr hcharacters
      · exact (isBoundary_left_iff hword (by omega)).mpr hstart
      · exact (isBoundary_left_iff hword hleft).mpr hstop
    · constructor <;> rw [h]
      · exact hasAt_right_iff.mpr hcharacters
      · exact (isBoundary_right_iff hword).mpr hstart
      · rw [Nat.add_assoc]
        exact (isBoundary_right_iff hword).mpr hstop

/-- **A keyword without space does not reach over a space.** -/
theorem occurs_split_iff (hkeyword : isSolid keyword = true) (hx : isSpace x = true)
    (h : text.toList = a.toList ++ x :: b.toList) :
    occurs text keyword = true ↔ occurs a keyword = true ∨ occurs b keyword = true := by
  simp only [occurs_iff, standsAt_split_iff hkeyword hx h]
  constructor
  · rintro ⟨pos, ha | ⟨i, -, hb⟩⟩
    · exact .inl ⟨pos, ha⟩
    · exact .inr ⟨i, hb⟩
  · rintro (⟨pos, ha⟩ | ⟨i, hb⟩)
    · exact ⟨pos, .inl ha⟩
    · exact ⟨_, .inr ⟨i, rfl, hb⟩⟩

theorem not_occurs_empty (hne : keyword ≠ "") : occurs "" keyword = false := by
  refine Bool.eq_false_iff.mpr fun h => hne ?_
  obtain ⟨pos, hstands⟩ := (occurs_iff "" keyword).mp h
  have hlength := le_of_isBoundary hstands.stop
  have hnil : keyword.toList.length = 0 :=
    Nat.le_zero.mp (Nat.le_trans (Nat.le_add_left _ pos) hlength)
  exact String.toList_eq_nil_iff.mp (List.length_eq_zero_iff.mp hnil)

/-- **A keyword without space is sought word by word**: it occurs in a text exactly where it occurs
in one of the text's words. -/
theorem occurs_iff_words (hne : keyword ≠ "") (hkeyword : isSolid keyword = true) (text : String) :
    occurs text keyword = true ↔ ∃ word ∈ words text, occurs word keyword = true := by
  -- by the length of the text: a space leaves two shorter ones
  induction hlength : text.toList.length using Nat.strongRecOn generalizing text with
  | _ n ih =>
      rcases isSolid_or_split text with hword | ⟨a, x, b, hx, hsplit⟩
      · by_cases hempty : text = ""
        · subst hempty
          simp [not_occurs_empty hne, words]
        · rw [words_of_isSolid hempty hword]
          simp
      · have hshorter : a.toList.length < n ∧ b.toList.length < n := by
          rw [hsplit, List.length_append, List.length_cons] at hlength
          omega
        rw [occurs_split_iff hkeyword hx hsplit, words_of_split hx hsplit,
          ih _ hshorter.1 a rfl, ih _ hshorter.2 b rfl]
        simp only [List.mem_append, or_and_right, exists_or]

/-- The keyword begins and ends with a character of a word. -/
structure HasWordEdges (keyword : String) : Prop where
  first : IsWordAt keyword.toList 0
  last : IsWordAt keyword.toList (keyword.toList.length - 1)

/-- **A keyword occurs in itself exactly if it begins and ends with characters of words.** -/
theorem occurs_self_iff (hne : keyword ≠ "") :
    occurs keyword keyword = true ↔ HasWordEdges keyword := by
  have hpos : 0 < keyword.toList.length := List.length_pos_iff.mpr (by simpa using hne)
  have hend : ¬ IsWordAt keyword.toList keyword.toList.length := by simp [IsWordAt]
  have hstart : IsBoundary keyword.toList 0 ↔ IsWordAt keyword.toList 0 := by
    simp [IsBoundary]
  have hstop : IsBoundary keyword.toList keyword.toList.length ↔
      IsWordAt keyword.toList (keyword.toList.length - 1) := by
    simp only [IsBoundary, hpos, true_and, hend, iff_false, not_not]
  rw [occurs_iff]
  constructor
  · rintro ⟨pos, hstands⟩
    have hfit := le_of_isBoundary hstands.stop
    obtain rfl : pos = 0 := by omega
    have hlast := hstands.stop
    rw [Nat.zero_add] at hlast
    exact ⟨hstart.mp hstands.start, hstop.mp hlast⟩
  · intro hedges
    have hself : HasAt keyword.toList keyword.toList 0 := by
      unfold HasAt
      rw [List.drop_zero, List.take_length, List.forall₂_same]
      exact fun c _ => equals_refl c
    refine ⟨0, hself, hstart.mpr hedges.first, ?_⟩
    rw [Nat.zero_add]
    exact hstop.mpr hedges.last

/-- How a keyword without space is sought, in all texts. -/
structure IsSoughtByWord (keyword : String) : Prop where
  /-- It occurs in a text exactly where it occurs in one of the text's words. -/
  occurs_iff : ∀ text, occurs text keyword = true ↔
    ∃ word ∈ words text, occurs word keyword = true
  /-- Alone between two texts it is found if it begins and ends with characters of words, and else
  only where it occurs in one of the two. -/
  between_iff : ∀ a b, anyOccurs (a ++ " " ++ keyword ++ " " ++ b) [keyword] = true ↔
    HasWordEdges keyword ∨ occurs a keyword = true ∨ occurs b keyword = true
  /-- It is found between any two texts exactly if it begins and ends with characters of words. -/
  found_iff : (∀ a b, anyOccurs (a ++ " " ++ keyword ++ " " ++ b) [keyword] = true) ↔
    HasWordEdges keyword
  /-- Exactly then the guards that exclude it reject all texts of which it is a word. -/
  excluded_iff : (∀ (g : Guard) (text : String), keyword ∈ g.excludeAny → keyword ∈ words text →
    g.allows text = false) ↔ HasWordEdges keyword

theorem anyOccurs_singleton (text keyword : String) :
    anyOccurs text [keyword] = occurs text keyword := by
  simp [anyOccurs]

/-- **A keyword that stands alone is found exactly if it begins and ends with characters of
words.** -/
theorem isSoughtByWord (hne : keyword ≠ "") (hkeyword : isSolid keyword = true) :
    IsSoughtByWord keyword := by
  have hself := occurs_self_iff hne
  have hblank (a b : String) : occurs (a ++ " " ++ b) keyword = true ↔
      occurs a keyword = true ∨ occurs b keyword = true :=
    occurs_split_iff (x := ' ') hkeyword (by decide) (by simp)
  have hbetween (a b : String) : anyOccurs (a ++ " " ++ keyword ++ " " ++ b) [keyword] = true ↔
      HasWordEdges keyword ∨ occurs a keyword = true ∨ occurs b keyword = true := by
    rw [anyOccurs_singleton, hblank, hblank, hself, or_assoc, or_left_comm]
  constructor
  case occurs_iff => exact occurs_iff_words hne hkeyword
  case between_iff => exact hbetween
  case found_iff =>
    constructor
    · intro hfound
      have halone := (hbetween "" "").mp (hfound "" "")
      simpa [not_occurs_empty hne] using halone
    · exact fun hedges a b => (hbetween a b).mpr (.inl hedges)
  case excluded_iff =>
    constructor
    · intro hrejects
      have hword : keyword ∈ words keyword := by
        rw [words_of_isSolid hne hkeyword]
        exact List.mem_singleton_self keyword
      have hguard := hrejects ⟨[], [keyword]⟩ keyword (List.mem_singleton_self keyword) hword
      rw [Guard.allows, anyOccurs_singleton] at hguard
      exact hself.mp (by simpa using hguard)
    · intro hedges g text hexcluded hword
      have hoccurs := (occurs_iff_words hne hkeyword text).mpr ⟨_, hword, hself.mpr hedges⟩
      have hany : anyOccurs text g.excludeAny = true := by
        rw [anyOccurs, List.any_eq_true]
        exact ⟨_, hexcluded, hoccurs⟩
      rw [Guard.allows, hany]
      simp

/-- A keyword that ends with a letter and begins with a point. -/
theorem isSoughtByWord_pointed :
    ".NET" ≠ "" ∧ isSolid ".NET" = true ∧ IsSoughtByWord ".NET" :=
  ⟨by decide, by decide, isSoughtByWord (by decide) (by decide)⟩

/-- **A guard lets a text pass although the keyword that it excludes is a word of the text.** -/
theorem allows_excluded :
    "c++" ≠ "" ∧ isSolid "c++" = true ∧
      anyOccurs ("in" ++ " " ++ "c++" ++ " " ++ "now") ["c++"] = false ∧
      "c++" ∈ words "in c++ now" ∧ Guard.allows ⟨[], ["c++"]⟩ "in c++ now" = true := by
  decide +kernel

end Keyword
end Triage
