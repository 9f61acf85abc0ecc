import Mathlib.Data.List.TakeWhile
import Triage.Reply.Object
import Triage.Proofs.Schema

/-!
# Counting braces over JSON

The scan that cuts an object out of a reply knows braces, quotes and backslashes and nothing else
of the grammar. It is right for objects that can be read because the reader and the scan agree on
where strings begin and end: outside of strings the reader takes no backslash, and inside of them it
takes none without the character behind it.

`Passes` says that the scan goes over a text and comes out at the depth at which it went in, and
`Takes` that this holds of what a reader has taken from the front of a text. Every part of the
reader takes such a front; so an object that can be read is closed by its last brace and by no
earlier one (`firstObject_of_value`).
-/

namespace Triage.Reply

open Json Text

variable {q q' q'' : Bool} {c : Char} {s t u rest : List Char}

/-! ## Going over a text -/

/-- Inside an object the scan goes over a text: it comes out at the depth at which it went in, in a
string or not as `q'` says. -/
def Passes (q q' : Bool) (s : List Char) : Prop :=
  ∀ (depth : Nat) (rest : List Char),
    closing (depth + 1) q false (s ++ rest) =
      (closing (depth + 1) q' false rest).map (s ++ ·)

theorem passes_nil (q : Bool) : Passes q q [] := by
  intro depth rest
  simp

theorem Passes.append (hs : Passes q q' s) (ht : Passes q' q'' t) : Passes q q'' (s ++ t) := by
  intro depth rest
  rw [List.append_assoc, hs, ht, Option.map_map]
  congr 1
  funext u
  simp

/-- A quote that is not escaped opens a string or closes it. -/
theorem passes_quote (q : Bool) : Passes q (!q) ['"'] := by
  intro depth rest
  simp [closing]

/-- In a string a backslash takes the next character with it. -/
theorem passes_escape (c : Char) : Passes true true ['\\', c] := by
  intro depth rest
  simp [closing, Function.comp_def]

theorem passes_of_inString (hquote : c ≠ '"') (hslash : c ≠ '\\') : Passes true true [c] := by
  intro depth rest
  simp [closing, hquote, hslash]

/-- A character that means nothing to the scan. -/
def IsPlain (c : Char) : Prop := c ≠ '"' ∧ c ≠ '\\' ∧ c ≠ '{' ∧ c ≠ '}'

instance (c : Char) : Decidable (IsPlain c) := inferInstanceAs (Decidable (_ ∧ _))

theorem IsPlain.passes (h : IsPlain c) (q : Bool) : Passes q q [c] := by
  obtain ⟨hquote, hslash, hopen, hclose⟩ := h
  intro depth rest
  cases q <;> simp [closing, hquote, hslash, hopen, hclose]

theorem passes_of_plain (h : ∀ c ∈ s, IsPlain c) (q : Bool) : Passes q q s := by
  induction s with
  | nil => exact passes_nil q
  | cons c rest ih =>
      obtain ⟨hc, hrest⟩ := List.forall_mem_cons.mp h
      exact (hc.passes q).append (ih hrest)

/-- The braces around a text that the scan goes over open a level and close it again. -/
theorem Passes.braced (h : Passes false false s) : Passes false false ('{' :: (s ++ ['}'])) := by
  intro depth rest
  rw [List.cons_append, closing]
  simp only [Bool.false_eq_true, if_false, Char.reduceEq, if_true, List.append_assoc]
  rw [h (depth + 1), List.singleton_append, closing]
  simp [Function.comp_def]

/-- The outermost object ends at the brace behind such a text. -/
theorem closing_braced (h : Passes false false s) (rest : List Char) :
    closing 0 false false ('{' :: (s ++ '}' :: rest)) = some ('{' :: (s ++ ['}'])) := by
  rw [closing]
  simp only [Bool.false_eq_true, if_false, Char.reduceEq, if_true]
  rw [h 0, closing]
  simp

/-! ## What readers take -/

/-- From a text its front has been taken, up to `rest`, and the scan goes over it. -/
def Takes (q q' : Bool) (s rest : List Char) : Prop :=
  ∃ front, s = front ++ rest ∧ Passes q q' front

theorem Passes.takes (h : Passes q q' s) (rest : List Char) : Takes q q' (s ++ rest) rest :=
  ⟨s, rfl, h⟩

theorem takes_refl (q : Bool) (s : List Char) : Takes q q s s := ⟨[], rfl, passes_nil q⟩

theorem Takes.trans (hs : Takes q q' s t) (ht : Takes q' q'' t u) : Takes q q'' s u := by
  obtain ⟨front, rfl, hfront⟩ := hs
  obtain ⟨middle, rfl, hmiddle⟩ := ht
  exact ⟨front ++ middle, (List.append_assoc _ _ _).symm, hfront.append hmiddle⟩

theorem IsPlain.takes (h : IsPlain c) (q : Bool) (rest : List Char) : Takes q q (c :: rest) rest :=
  (h.passes q).takes rest

theorem takes_dropWhile {p : Char → Bool} (h : ∀ c, p c = true → IsPlain c) (s : List Char) :
    Takes false false s (s.dropWhile p) := by
  refine ⟨s.takeWhile p, List.takeWhile_append_dropWhile.symm, passes_of_plain ?_ false⟩
  intro c hc
  exact h c (List.mem_takeWhile_imp hc)

theorem isPlain_of_isGap (h : isGap c = true) : IsPlain c := by
  simp only [isGap, Bool.or_eq_true, beq_iff_eq] at h
  rcases h with ((rfl | rfl) | rfl) | rfl <;> decide

theorem takes_skipGap (s : List Char) : Takes false false s (skipGap s) :=
  takes_dropWhile (fun _ => isPlain_of_isGap) s

theorem isPlain_of_isAsciiDigit (h : isAsciiDigit c = true) : IsPlain c := by
  refine ⟨?_, ?_, ?_, ?_⟩ <;> (rintro rfl; revert h; decide)

/-! ### Strings -/

/-- A digit in base sixteen means nothing to the scan. -/
theorem isPlain_of_hexValue? {n : Nat} (h : hexValue? c = some n) : IsPlain c := by
  refine ⟨?_, ?_, ?_, ?_⟩ <;> (rintro rfl; revert h; decide +revert)

theorem passes_hex4 {a b d e : Char} {n : Nat} (h : hex4? a b d e = some n) :
    Passes true true [a, b, d, e] := by
  simp only [hex4?, Option.bind_eq_bind, Option.bind_eq_some_iff] at h
  obtain ⟨_, ha, _, hb, _, hd, _, he, -⟩ := h
  refine passes_of_plain ?_ true
  simp only [List.mem_cons, List.not_mem_nil, or_false, forall_eq_or_imp, forall_eq]
  exact ⟨isPlain_of_hexValue? ha, isPlain_of_hexValue? hb, isPlain_of_hexValue? hd,
    isPlain_of_hexValue? he⟩

/-- A character by its code: the backslash, the mark and four digits. -/
theorem takes_code {a b d e : Char} {n : Nat} (h : hex4? a b d e = some n) (rest : List Char) :
    Takes true true ('\\' :: 'u' :: a :: b :: d :: e :: rest) rest :=
  ((passes_escape 'u').append (passes_hex4 h)).takes rest

/-- **A string is over for the scan where it is over for the reader.** -/
theorem takes_of_stringBody {start : Nat} {text : List Point}
    (h : stringBody start s = .ok (text, rest)) : Takes true false s rest := by
  fun_induction stringBody start s generalizing text rest with
  | case2 tail =>
      cases h
      exact (passes_quote true).takes tail
  | case5 a b c d e f g h' i tail high hhigh _ low hlow _ ih =>
      -- a pair of codes stands for one character
      obtain ⟨_, hi, heq⟩ := ok_of_map h
      cases heq
      exact (takes_code hhigh _).trans ((takes_code hlow _).trans (ih hi))
  | case6 a b c d e f g h' i tail high hhigh _ low hlow _ ih =>
      obtain ⟨_, hi, heq⟩ := ok_of_map h
      cases heq
      exact (takes_code hhigh _).trans (ih hi)
  | case7 a b c d e f g h' i tail high hhigh _ ih =>
      obtain ⟨_, hi, heq⟩ := ok_of_map h
      cases heq
      exact (takes_code hhigh _).trans (ih hi)
  | case9 a b c d e tail _ code hcode ih =>
      obtain ⟨_, he, heq⟩ := ok_of_map h
      cases heq
      exact (takes_code hcode _).trans (ih he)
  | case12 c tail _ _ _ c' _ ih =>
      obtain ⟨_, htail, heq⟩ := ok_of_map h
      cases heq
      exact ((passes_escape c).takes tail).trans (ih htail)
  | case15 c tail hquote _ _ _ hend hslash _ ih =>
      obtain ⟨_, htail, heq⟩ := ok_of_map h
      cases heq
      have hc : c ≠ '\\' := by
        rintro rfl
        cases tail with
        | nil => exact hend rfl rfl
        | cons d tail => exact hslash d tail rfl rfl
      exact ((passes_of_inString hquote hc).takes tail).trans (ih htail)
  | _ => cases h

/-! ### Numbers -/

theorem takes_digits (s : List Char) : Takes false false s (s.dropWhile isAsciiDigit) :=
  takes_dropWhile (fun _ => isPlain_of_isAsciiDigit) s

theorem takes_of_fractionPart {row : List Char} (h : fractionPart s = some (row, rest)) :
    Takes false false s rest := by
  unfold fractionPart at h
  dsimp only at h
  split at h
  · split at h
    · cases h
    · cases h
      exact (IsPlain.takes (by decide) false _).trans (takes_digits _)
  · cases h

theorem takes_of_exponentPart {n : Int} (h : exponentPart s = some (n, rest)) :
    Takes false false s rest := by
  have hmark (c : Char) (hc : c = 'e' ∨ c = 'E') (t : List Char) :
      Takes false false (c :: t) t := by
    rcases hc with rfl | rfl <;> exact IsPlain.takes (by decide) false t
  have hsign (c : Char) (hc : c = '-' ∨ c = '+') (t : List Char) :
      Takes false false (c :: t) t := by
    rcases hc with rfl | rfl <;> exact IsPlain.takes (by decide) false t
  unfold exponentPart at h
  dsimp only at h
  split at h
  case h_7 => cases h
  all_goals
    split at h
    · cases h
    · cases h
      first
        | exact (hmark _ (by simp) _).trans ((hsign _ (by simp) _).trans (takes_digits _))
        | exact (hmark _ (by simp) _).trans (takes_digits _)

theorem takes_of_number {v : Json} (h : number s = .ok (v, rest)) : Takes false false s rest := by
  unfold number at h
  split at h
  rename_i negative body hbody
  -- the sign
  have hsign : Takes false false s body := by
    split at hbody
    · cases hbody
      exact IsPlain.takes (by decide) false _
    · cases hbody
      exact takes_refl false s
  -- the whole digits
  extract_lets whole unread fraction n at h
  have hwhole : Takes false false body (body.drop whole.length) := by
    refine ⟨whole, ?_, passes_of_plain ?_ false⟩
    · dsimp only [whole]
      split
      · rfl
      · exact (List.prefix_iff_eq_append.mp (List.takeWhile_prefix _)).symm
    · intro c hc
      dsimp only [whole] at hc
      split at hc
      · obtain rfl := List.mem_singleton.mp hc
        decide
      · exact isPlain_of_isAsciiDigit (List.mem_takeWhile_imp hc)
  split at h
  · cases h
  -- the fraction and the exponent, each of which may be absent
  split at h
  rename_i digits unread' hdigits
  have hfraction : Takes false false unread unread' := by
    cases hf : fraction with
    | none =>
        rw [hf] at hdigits
        cases hdigits
        exact takes_refl false _
    | some taken =>
        rw [hf] at hdigits
        cases hdigits
        exact takes_of_fractionPart hf
  extract_lets power at h
  split at h
  rename_i exponent unread'' hexponent
  have hpower : Takes false false unread' unread'' := by
    cases hp : power with
    | none =>
        rw [hp] at hexponent
        cases hexponent
        exact takes_refl false _
    | some taken =>
        rw [hp] at hexponent
        cases hexponent
        exact takes_of_exponentPart hp
  have htaken : Takes false false s unread'' :=
    hsign.trans (hwhole.trans (hfraction.trans hpower))
  split at h
  · cases h
    exact htaken
  · split at h
    · cases h
    · cases h
      exact htaken

/-! ### Values -/

variable {spell : List Point → String}

/-- The three readers of values take fronts that the scan goes over, for one amount of fuel and however
texts are spelled. The members of an object are taken up to the brace that closes them. -/
structure TakeFronts (spell : List Point → String) (fuel : Nat) : Prop where
  value : ∀ {s rest : List Char} {v : Json},
    Json.value spell fuel s = .ok (v, rest) → Takes false false s rest
  elements : ∀ {s rest : List Char} {items : List Json},
    Json.elements spell fuel s = .ok (items, rest) → Takes false false s rest
  members : ∀ {s rest : List Char} {done fields : Record},
    Json.members spell fuel done s = .ok (fields, rest) → Takes false false s ('}' :: rest)

theorem takes_of_object {fuel : Nat} {v : Json} (hfuel : TakeFronts spell fuel)
    (h : Json.value spell (fuel + 1) ('{' :: s) = .ok (v, rest)) :
    Takes false false s ('}' :: rest) := by
  rw [Json.value] at h
  split at h
  · rename_i hgap
    cases h
    exact hgap ▸ takes_skipGap s
  · obtain ⟨_, hmembers, heq⟩ := ok_of_map h
    cases heq
    exact (takes_skipGap s).trans (hfuel.members hmembers)

theorem Takes.braced (h : Takes false false s ('}' :: rest)) :
    Takes false false ('{' :: s) rest := by
  obtain ⟨front, rfl, hfront⟩ := h
  refine ⟨'{' :: (front ++ ['}']), ?_, hfront.braced⟩
  simp

theorem takes_word (word : List Char) (h : (word.all fun c => decide (IsPlain c)) = true)
    (rest : List Char) : Takes false false (word ++ rest) rest := by
  have hplain : ∀ c ∈ word, IsPlain c := fun c hc => of_decide_eq_true (List.all_eq_true.mp h c hc)
  exact (passes_of_plain hplain false).takes rest

theorem takes_of_value {fuel : Nat} {v : Json} (hfuel : TakeFronts spell fuel)
    (h : Json.value spell (fuel + 1) s = .ok (v, rest)) : Takes false false s rest := by
  rw [Json.value.eq_def] at h
  dsimp only at h
  split at h
  case h_1 =>
    obtain ⟨_, htext, heq⟩ := ok_of_map h
    cases heq
    exact ((passes_quote false).takes _).trans (takes_of_stringBody htext)
  case h_2 _ tail =>
    have hobject : Json.value spell (fuel + 1) ('{' :: tail) = .ok (v, rest) := by
      rw [Json.value]
      exact h
    exact (takes_of_object hfuel hobject).braced
  case h_3 _ tail =>
    have hbracket (t : List Char) : Takes false false (']' :: t) t :=
      IsPlain.takes (by decide) false t
    refine (IsPlain.takes (by decide) false tail).trans ((takes_skipGap tail).trans ?_)
    split at h
    · rename_i hgap
      cases h
      exact hgap ▸ hbracket _
    · obtain ⟨_, helements, heq⟩ := ok_of_map h
      cases heq
      exact hfuel.elements helements
  case h_10 => exact takes_of_number h
  all_goals
    -- a word that is a value
    cases h
    first
      | exact takes_word ['n', 'u', 'l', 'l'] (by decide) _
      | exact takes_word ['t', 'r', 'u', 'e'] (by decide) _
      | exact takes_word ['f', 'a', 'l', 's', 'e'] (by decide) _
      | exact takes_word ['N', 'a', 'N'] (by decide) _
      | exact takes_word ['I', 'n', 'f', 'i', 'n', 'i', 't', 'y'] (by decide) _
      | exact takes_word ['-', 'I', 'n', 'f', 'i', 'n', 'i', 't', 'y'] (by decide) _

theorem takes_of_elements {fuel : Nat} {items : List Json} (hfuel : TakeFronts spell fuel)
    (h : Json.elements spell (fuel + 1) s = .ok (items, rest)) : Takes false false s rest := by
  rw [Json.elements] at h
  obtain ⟨⟨v, t⟩, hvalue, h⟩ := bind_eq_ok_iff.mp h
  refine (hfuel.value hvalue).trans ((takes_skipGap t).trans ?_)
  dsimp only at h
  split at h
  · rename_i hgap
    cases h
    rw [hgap]
    exact IsPlain.takes (by decide) false _
  · rename_i tail hgap
    obtain ⟨⟨more, u⟩, helements, h⟩ := bind_eq_ok_iff.mp h
    cases h
    rw [hgap]
    exact (IsPlain.takes (by decide) false tail).trans
      ((takes_skipGap tail).trans (hfuel.elements helements))
  · cases h

theorem takes_of_members {fuel : Nat} {done fields : Record} (hfuel : TakeFronts spell fuel)
    (h : Json.members spell (fuel + 1) done s = .ok (fields, rest)) :
    Takes false false s ('}' :: rest) := by
  rw [Json.members.eq_def] at h
  dsimp only at h
  split at h
  · rename_i tail
    obtain ⟨⟨name, t⟩, hname, h⟩ := bind_eq_ok_iff.mp h
    refine ((passes_quote false).takes tail).trans ((takes_of_stringBody hname).trans
      ((takes_skipGap t).trans ?_))
    split at h
    · rename_i tail' hcolon
      obtain ⟨⟨v, u⟩, hvalue, h⟩ := bind_eq_ok_iff.mp h
      rw [hcolon]
      refine (IsPlain.takes (by decide) false tail').trans ((takes_skipGap tail').trans
        ((hfuel.value hvalue).trans ?_))
      dsimp only at h
      have hgap := takes_skipGap u
      split at h
      · rename_i hclose
        cases h
        exact hclose ▸ hgap
      · rename_i tail'' hcomma
        rw [hcomma] at hgap
        exact hgap.trans ((IsPlain.takes (by decide) false tail'').trans
          ((takes_skipGap tail'').trans (hfuel.members h)))
      · cases h
    · cases h
  · cases h

/-- **Every reader of values takes a front that the scan goes over.** -/
theorem takeFronts (spell : List Point → String) (fuel : Nat) : TakeFronts spell fuel := by
  induction fuel with
  | zero =>
      -- without fuel nothing is read
      exact
        { value := fun h => nomatch h
          elements := fun h => nomatch h
          members := fun h => nomatch h }
  | succ fuel ih =>
      exact
        { value := takes_of_value ih
          elements := takes_of_elements ih
          members := takes_of_members ih }

/-! ## The object that is cut out -/

/-- An object that can be read and ends with its brace is the text between two braces that the scan
goes over. -/
theorem passes_of_parseChars {v : Json} (h : parseChars ('{' :: s) = .ok v)
    (hlast : ('{' :: s).getLast? = some '}') :
    ∃ inner, s = inner ++ ['}'] ∧ Passes false false inner := by
  have hdocument : parseDocument ('{' :: s) = .ok v := h
  obtain ⟨⟨v', rest⟩, hvalue, hrest⟩ := bind_eq_ok_iff.mp hdocument
  obtain ⟨inner, rfl, hinner⟩ := takes_of_object (takeFronts _ _) hvalue
  refine ⟨inner, ?_, hinner⟩
  -- what is left is white space, and so it cannot end with the brace
  cases hr : rest with
  | nil => rfl
  | cons c tail =>
      have hgap : skipGap rest = [] := by
        dsimp only at hrest
        split at hrest
        · assumption
        · cases hrest
      have hmem : '}' ∈ rest := by
        rw [hr]
        have hlast' : (c :: tail).getLast? = some '}' := by
          simpa [hr, List.getLast?_cons, List.getLast?_append] using hlast
        exact List.mem_of_getLast? hlast'
      cases List.dropWhile_eq_nil_iff.mp hgap '}' hmem

theorem dropWhile_ne_brace {p : List Char} (hp : '{' ∉ p) (t : List Char) :
    (p ++ '{' :: t).dropWhile (· ≠ '{') = '{' :: t := by
  rw [List.dropWhile_append_of_pos]
  · simp
  · intro c hc
    have hne : c ≠ '{' := by
      rintro rfl
      exact hp hc
    simpa using hne

/-- **The first object of a text is cut out whole**, whatever stands behind it. -/
theorem firstObject_of_parseChars {v : Json} {p o : List Char} (hp : '{' ∉ p)
    (hfirst : o.head? = some '{') (hlast : o.getLast? = some '}') (ho : parseChars o = .ok v)
    (t : List Char) : firstObject (p ++ o ++ t) = some o := by
  obtain ⟨s, rfl⟩ := List.head?_eq_some_iff.mp hfirst
  obtain ⟨inner, rfl, hinner⟩ := passes_of_parseChars ho hlast
  have hparts : p ++ '{' :: (inner ++ ['}']) ++ t = p ++ '{' :: (inner ++ '}' :: t) := by simp
  rw [firstObject, hparts, dropWhile_ne_brace hp, closing_braced hinner]

end Triage.Reply
