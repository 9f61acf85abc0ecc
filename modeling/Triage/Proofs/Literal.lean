import Mathlib.Data.List.Forall2
import Triage.Proofs.Keyword

/-!
# Keywords are searched for as they stand

A keyword is searched for by way of an expression, and the expression is read as the characters of the
keyword between two word boundaries (`Keyword.compile_expression`). What remains is what the matcher
makes of such a row of parts. A row matches part by part (`run_ofList_cons`), a row of characters where
the text has them one after another (`run_characters_iff`), and a search tries every position
(`search?_isSome_iff`). So the search is the plain one: a keyword occurs where its characters stand,
whatever their case, with a word beginning or ending on both sides (`Keyword.occurs_iff`).
-/

namespace Triage.Regex

/-! ## Word boundaries -/

/-- A character of a word stands at the position. -/
def IsWordAt (text : List Char) (pos : Nat) : Prop :=
  ∃ c, text[pos]? = some c ∧ Text.isWord c = true

/-- A word begins or ends at the position: of the characters on its two sides one belongs to a word
and the other does not, or is not there. -/
def IsBoundary (text : List Char) (pos : Nat) : Prop :=
  ¬ ((0 < pos ∧ IsWordAt text (pos - 1)) ↔ IsWordAt text pos)

/-- A boundary by the characters on its two sides. -/
theorem isBoundary_iff (text : List Char) (pos : Nat) :
    IsBoundary text pos ↔
      ¬ ((∃ c, (if pos = 0 then none else text[pos - 1]?) = some c ∧ Text.isWord c = true) ↔
        ∃ c, text[pos]? = some c ∧ Text.isWord c = true) := by
  unfold IsBoundary IsWordAt
  by_cases hpos : pos = 0
  · simp [hpos]
  · simp [hpos, Nat.pos_of_ne_zero hpos]

theorem holds_word (c : Char) : CharKind.word.holds false c.toNat = Text.isWord c := rfl

theorem holds_boundary_iff (text : List Char) (pos : Nat) :
    Anchor.holds text.toArray pos (.boundary false false) = true ↔ IsBoundary text pos := by
  have hat : atBoundary text.toArray false pos = true ↔ IsBoundary text pos := by
    rw [isBoundary_iff]
    unfold atBoundary
    simp only [List.getElem?_toArray]
    generalize (if pos = 0 then none else text[pos - 1]?) = before
    generalize text[pos]? = after
    cases before <;> cases after <;> simp [holds_word]
  rw [← hat]
  cases text with
  | nil =>
      -- a text without characters has no boundary in any case
      simp [Anchor.holds, atBoundary]
  | cons c rest => simp [Anchor.holds]

/-! ## A row of parts -/

section Rows

variable {text : List Char} {p q : Place} {next : Next}

/-- The first part of a row is matched first, and the others go on from where it ends. -/
theorem run_ofList_cons (text : Array Char) (node : Node) (rest : List Node) (p : Place)
    (next : Next) :
    (Node.ofList (node :: rest)).run text p next =
      node.run text p fun m => (Node.ofList rest).run text m next := by
  cases rest with
  | nil => rfl
  | cons _ _ => rfl

/-- The test for a character as it is written, whatever its case. -/
def character (c : Char) : Node := .one (.char .ignore false c.toNat)

/-- One character stands for another, whatever their case. -/
def Equals (c d : Char) : Prop := CaseRule.ignore.same c.toNat d.toNat = true

theorem run_character_iff (c : Char) :
    (character c).run text.toArray p next = some q ↔
      ∃ d, text[p.pos]? = some d ∧ Equals c d ∧ next { p with pos := p.pos + 1 } = some q := by
  unfold character Equals
  rw [Node.run, List.getElem?_toArray]
  cases text[p.pos]? with
  | none => simp
  | some d => simp [CharTest.holds]

/-- The characters stand in the text at the position, each whatever its case. -/
def HasAt (text s : List Char) (pos : Nat) : Prop :=
  List.Forall₂ Equals s ((text.drop pos).take s.length)

theorem hasAt_nil (text : List Char) (pos : Nat) : HasAt text [] pos := by
  unfold HasAt
  exact .nil

theorem hasAt_cons_iff {c : Char} {s : List Char} {pos : Nat} :
    HasAt text (c :: s) pos ↔ ∃ d, text[pos]? = some d ∧ Equals c d ∧ HasAt text s (pos + 1) := by
  have hrest : text.drop (pos + 1) = (text.drop pos).drop 1 := List.drop_drop.symm
  unfold HasAt
  rw [List.length_cons, ← List.head?_drop, hrest]
  cases text.drop pos with
  | nil => simp
  | cons d rest => simp

/-- A row of characters is matched where the text has them one after another. -/
theorem run_characters_iff (s : List Char) (rest : List Node) :
    (Node.ofList (s.map character ++ rest)).run text.toArray p next = some q ↔
      HasAt text s p.pos ∧
        (Node.ofList rest).run text.toArray { p with pos := p.pos + s.length } next = some q := by
  induction s generalizing p with
  | nil =>
      have hplace : ({ p with pos := p.pos + [].length (α := Char) } : Place) = p := rfl
      rw [hplace]
      exact (and_iff_right (hasAt_nil _ _)).symm
  | cons c s ih =>
      rw [List.map_cons, List.cons_append, run_ofList_cons, run_character_iff, hasAt_cons_iff]
      simp only [ih, List.length_cons, Nat.add_assoc, Nat.add_comm 1]
      constructor
      · rintro ⟨d, hd, heq, hs, hrest⟩
        exact ⟨⟨d, hd, heq, hs⟩, hrest⟩
      · rintro ⟨⟨d, hd, heq, hs⟩, hrest⟩
        exact ⟨d, hd, heq, hs, hrest⟩

theorem run_boundary_iff (rest : List Node) :
    (Node.ofList (boundary :: rest)).run text.toArray p next = some q ↔
      IsBoundary text p.pos ∧ (Node.ofList rest).run text.toArray p next = some q := by
  rw [run_ofList_cons, boundary, Node.run, ← holds_boundary_iff]
  cases Anchor.holds text.toArray p.pos (.boundary false false) <;> simp

end Rows

/-! ## Searching -/

theorem searchFrom_isSome_iff (text : Array Char) (node : Node) (count pos : Nat) :
    (searchFrom text node count pos).isSome = true ↔
      ∃ i, pos ≤ i ∧ i < pos + count ∧ (node.run text ⟨i, [], []⟩ some).isSome = true := by
  induction count generalizing pos with
  | zero =>
      have hnone : ∀ i, pos ≤ i → ¬ i < pos + 0 := by intro i hi hlt; omega
      simp only [searchFrom, Option.isSome_none, Bool.false_eq_true, false_iff]
      rintro ⟨i, hi, hlt, -⟩
      exact hnone i hi hlt
  | succ count ih =>
      rw [searchFrom]
      cases hrun : node.run text ⟨pos, [], []⟩ some with
      | some found =>
          refine iff_of_true rfl ⟨pos, Nat.le_refl pos, by omega, ?_⟩
          rw [hrun]
          rfl
      | none =>
          -- what is found starts behind the position that has been tried
          dsimp only
          rw [ih]
          constructor
          · rintro ⟨i, hi, hlt, hfound⟩
            exact ⟨i, by omega, by omega, hfound⟩
          · rintro ⟨i, hi, hlt, hfound⟩
            have hne : i ≠ pos := by
              intro heq
              rw [heq, hrun] at hfound
              cases hfound
            exact ⟨i, by omega, by omega, hfound⟩

/-- **A search tries every position of the text.** -/
theorem search?_isSome_iff (pattern : Pattern) (text : String) :
    (pattern.search? text).isSome = true ↔
      ∃ i ≤ text.toList.length,
        (pattern.node.run text.toList.toArray ⟨i, [], []⟩ some).isSome = true := by
  unfold Pattern.search?
  rw [searchFrom_isSome_iff]
  simp only [List.size_toArray, Nat.zero_le, true_and, Nat.zero_add, Nat.lt_succ_iff]

end Triage.Regex

namespace Triage.Keyword

open Regex

/-- The keyword stands in the text at the position: its characters one by one, whatever their case,
and a word begins or ends on both sides. -/
structure StandsAt (text keyword : String) (pos : Nat) : Prop where
  characters : HasAt text.toList keyword.toList pos
  start : IsBoundary text.toList pos
  stop : IsBoundary text.toList (pos + keyword.toList.length)

/-- There is no boundary beyond the end of a text. -/
theorem le_of_isBoundary {text : List Char} {pos : Nat} (h : IsBoundary text pos) :
    pos ≤ text.length := by
  refine Nat.le_of_not_lt fun hlt => ?_
  have hbeyond : ∀ i, text.length ≤ i → ¬ IsWordAt text i := by
    rintro i hi ⟨c, hc, -⟩
    rw [List.getElem?_eq_none hi] at hc
    cases hc
  refine h ⟨fun hbefore => ?_, fun hafter => ?_⟩
  · exact absurd hbefore.2 (hbeyond _ (by omega))
  · exact absurd hafter (hbeyond _ (by omega))

theorem run_expression_iff (text keyword : String) (pos : Nat) :
    ((Node.ofList (parts keyword)).run text.toList.toArray ⟨pos, [], []⟩ some).isSome = true ↔
      StandsAt text keyword pos := by
  have hparts : parts keyword = boundary :: (keyword.toList.map character ++ [boundary]) := rfl
  have hend (p q : Place) : (Node.ofList []).run text.toList.toArray p some = some q ↔ p = q := by
    rw [Node.ofList, Node.run, Option.some.injEq]
  rw [Option.isSome_iff_exists, hparts]
  simp only [run_boundary_iff, run_characters_iff, hend]
  constructor
  · rintro ⟨q, hstart, hcharacters, hstop, -⟩
    exact ⟨hcharacters, hstart, hstop⟩
  · intro h
    exact ⟨_, h.start, h.characters, h.stop, rfl⟩

/-- **A keyword occurs where it stands.** -/
theorem occurs_iff (text keyword : String) :
    occurs text keyword = true ↔ ∃ pos, StandsAt text keyword pos := by
  unfold occurs
  rw [compile_expression]
  dsimp only
  rw [search?_isSome_iff]
  constructor
  · rintro ⟨pos, -, hrun⟩
    exact ⟨pos, (run_expression_iff text keyword pos).mp hrun⟩
  · rintro ⟨pos, h⟩
    exact ⟨pos, le_of_isBoundary h.start, (run_expression_iff text keyword pos).mpr h⟩

/-- A point of a keyword stands for itself, and where no word ends the keyword does not occur. -/
example : occurs "at A.C now" "a.c" = true ∧ occurs "abc" "a.c" = false ∧
    occurs "in C++ now" "c++" = false := by
  decide +kernel

/-- One of the keywords stands somewhere in the text. -/
def Stands (text : String) (keywords : List String) : Prop :=
  ∃ keyword ∈ keywords, ∃ pos, StandsAt text keyword pos

/-- What keywords and the guards made of them come to, whatever characters they have. -/
structure IsLiteral (text : String) : Prop where
  /-- Of several keywords one occurs exactly where one of them stands. -/
  anyOccurs_iff : ∀ keywords, anyOccurs text keywords = true ↔ Stands text keywords
  /-- A guard lets the text pass if one of the keywords that it asks for stands there, or it asks for
  none, and none of those does that it excludes. -/
  allows_iff : ∀ g : Guard, g.allows text = true ↔
    (g.requireAny = [] ∨ Stands text g.requireAny) ∧ ¬ Stands text g.excludeAny
  /-- Without a guard every text passes. -/
  admits_iff : ∀ p : Policy, p.admits text = true ↔ ∀ g, p.guard = some g → g.allows text = true

/-- **Keywords are searched for as they stand.** -/
theorem isLiteral (text : String) : IsLiteral text := by
  have hany (keywords : List String) : anyOccurs text keywords = true ↔ Stands text keywords := by
    unfold anyOccurs Stands
    simp only [List.any_eq_true, occurs_iff]
  constructor
  case anyOccurs_iff => exact hany
  case allows_iff =>
    intro g
    unfold Guard.allows
    rw [Bool.and_eq_true, Bool.or_eq_true, List.isEmpty_iff, hany, Bool.not_eq_true', ← hany,
      ← hany, Bool.not_eq_true]
  case admits_iff =>
    intro p
    unfold Policy.admits
    cases p.guard with
    | none => simp
    | some g => simp

end Triage.Keyword
