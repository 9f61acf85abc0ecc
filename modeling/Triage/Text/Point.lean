import Triage.Text.Basic

/-!
# Code points

A document can name half of a surrogate pair where the other half is missing. Such a text has no
encoding and is no `String`; what it has is code points. Two spellings make a `String` of them
nevertheless. One shows the replacement character in the place of a half that stands alone, and so
loses which half it was. The other keeps it: a half becomes a mark and a character, and a mark that
is in the text itself is doubled.
-/

namespace Triage.Text

/-- A code point: a character, or half of a surrogate pair that stands alone, by its place among
the 2048 halves. -/
inductive Point where
  | char (c : Char)
  | half (place : Fin 2048)
  deriving DecidableEq, Repr

/-- The code of the first half. -/
def firstHalf : Nat := 0xd800

/-- Stands for halves that are not kept, and marks those that are. -/
def mark : Char := Char.ofNat 0xfffd

namespace Point

/-- A code point by its code. -/
def ofCode (n : Nat) : Point :=
  if h : firstHalf ≤ n ∧ n - firstHalf < 2048 then .half ⟨n - firstHalf, h.2⟩
  else .char (Char.ofNat n)

/-- The character, if it is one. -/
def char? : Point → Option Char
  | .char c => some c
  | .half _ => none

/-- The code, if it is half of a pair. -/
def half? : Point → Option Nat
  | .char _ => none
  | .half place => some (firstHalf + place)

/-- As a character; which half it was is lost. -/
def shown : Point → Char
  | .char c => c
  | .half _ => mark

/-- As characters; a half is kept behind a mark. -/
def kept : Point → List Char
  | .char c => if c = mark then [mark, mark] else [c]
  | .half place => [mark, Char.ofNat place]

end Point

/-- The code points of a text. -/
def points (s : String) : List Point := s.toList.map .char

/-- The text that code points make, unless a half stands alone among them. -/
def whole? (points : List Point) : Option String := (points.mapM Point.char?).map String.ofList

/-- Code points as a text; which halves stood alone is lost. -/
def shown (points : List Point) : String := String.ofList (points.map Point.shown)

/-- Code points as a text that keeps halves. -/
def kept (points : List Point) : String := String.ofList (points.flatMap Point.kept)

/-- The code points that were kept. -/
def ofKept : List Char → List Point
  | [] => []
  | [c] => [.char c]
  | c :: d :: rest =>
    if c = mark then
      (if d = mark then .char mark else .half (Fin.ofNat 2048 d.toNat)) :: ofKept rest
    else .char c :: ofKept (d :: rest)

/-- Code points make a text exactly where they are those of a text. -/
theorem whole?_eq_some_iff {ps : List Point} {s : String} : whole? ps = some s ↔ ps = points s := by
  have hchars (cs : List Char) : ps.mapM Point.char? = some cs ↔ ps = cs.map .char := by
    induction ps generalizing cs with
    | nil => cases cs <;> simp
    | cons p rest ih =>
        rw [List.mapM_cons]
        cases p with
        | half place => cases cs <;> simp [Point.char?]
        | char c =>
            cases cs with
            | nil => simp [Point.char?, Option.bind_eq_some_iff]
            | cons d cs =>
                simp [Point.char?, Option.bind_eq_some_iff, ih]
                exact and_comm
  rw [whole?, Option.map_eq_some_iff]
  constructor
  · rintro ⟨cs, h, rfl⟩
    rw [(hchars cs).mp h, points, String.toList_ofList]
  · rintro rfl
    exact ⟨s.toList, (hchars _).mpr rfl, String.ofList_toList⟩

@[simp] theorem whole?_points (s : String) : whole? (points s) = some s :=
  whole?_eq_some_iff.mpr rfl

theorem ofKept_cons {c : Char} (hc : c ≠ mark) (s : List Char) :
    ofKept (c :: s) = .char c :: ofKept s := by
  cases s with
  | nil => rfl
  | cons d s => rw [ofKept, if_neg hc]

/-- Keeping code points loses none of them. -/
theorem ofKept_kept (ps : List Point) : ofKept (kept ps).toList = ps := by
  rw [kept, String.toList_ofList]
  induction ps with
  | nil => rfl
  | cons p rest ih =>
      rw [List.flatMap_cons]
      cases p with
      | char c =>
          by_cases hc : c = mark
          · simp [Point.kept, ofKept, hc, ih]
          · rw [Point.kept, if_neg hc, List.singleton_append, ofKept_cons hc, ih]
      | half place =>
          -- the characters behind marks are too small to be one
          have hcode : (Char.ofNat place).toNat = place := by
            have hvalid : (place : Nat).isValidChar := .inl (by omega)
            rw [Char.ofNat, dif_pos hvalid]
            rfl
          have hne : Char.ofNat place ≠ mark := by
            intro h
            have hmark : (place : Nat) = 0xfffd := by rw [← hcode, h]; rfl
            omega
          simp [Point.kept, ofKept, hne, hcode, ih]

end Triage.Text
