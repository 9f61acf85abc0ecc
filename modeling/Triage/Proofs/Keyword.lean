import Triage.Keyword

/-!
# Keywords make expressions

The expression of a keyword can always be read, whatever characters the keyword has, and it is read as
what it was written for: the characters one after another between two word boundaries
(`Keyword.compile_expression`). So no character of a keyword has a meaning of its own, and the search
for a keyword never stands on an expression that is malformed.

The reader goes letter by letter. An escaped text is one letter for each of its characters
(`Regex.tokens_escape`), and reading such a letter adds its character to the row
(`Regex.run_row_letter`); the result is an induction over the characters.
-/

namespace Triage.Regex

/-! ## The letters of an escaped text -/

/-- The letter as which a character is written so that it stands for itself. -/
def letter (c : Char) : Token := if c ∈ special then .escape c else .char c

theorem tokens_char {c : Char} (h : c ≠ '\\') (rest : List Char) :
    tokens (c :: rest) = .char c :: tokens rest := by
  rw [tokens]
  · rintro rfl
    exact absurd rfl h
  · rintro d r rfl
    exact absurd rfl h

theorem tokens_escape (s rest : List Char) :
    tokens (escape s ++ rest) = s.map letter ++ tokens rest := by
  induction s with
  | nil => rfl
  | cons c s ih =>
      rw [escape, List.flatMap_cons, List.append_assoc, ← escape, List.map_cons, List.cons_append,
        ← ih, escapeChar, letter]
      by_cases hc : c ∈ special
      · rw [if_pos hc, if_pos hc]
        rfl
      · -- a backslash is special, so what is not starts no escape
        have hne : c ≠ '\\' := by
          rintro rfl
          exact hc (by decide)
        rw [if_neg hc, if_neg hc, List.singleton_append, tokens_char hne]

/-! ## Reading them -/

open Text Reading

section Run

variable {α β : Type} {scan scan' : Scan} {rest : List Token} {token : Token}

theorem run_bind_ok {m : Reading α} {a : α} (h : m.run scan = .ok (a, scan')) (f : α → Reading β) :
    (m >>= f).run scan = (f a).run scan' := by
  rw [StateT.run_bind, h]
  rfl

theorem run_pure (a : α) (scan : Scan) : (pure a : Reading α).run scan = .ok (a, scan) := rfl

theorem run_peek_nil (h : scan.rest = []) : peek.run scan = .ok (none, scan) := by
  have hget : (get : Reading Scan).run scan = .ok (scan, scan) := rfl
  rw [peek, run_bind_ok hget, h]
  rfl

theorem run_peek_cons (h : scan.rest = token :: rest) (hd : token ≠ .dangling) :
    peek.run scan = .ok (some token, scan) := by
  have hget : (get : Reading Scan).run scan = .ok (scan, scan) := rfl
  rw [peek, run_bind_ok hget, h]
  cases token with
  | dangling => exact absurd rfl hd
  | char c => rfl
  | escape c => rfl

theorem run_skip (scan : Scan) : skip.run scan = .ok ((), { scan with rest := scan.rest.tail }) :=
  rfl

/-- At the end nothing is accepted. -/
theorem run_accept_nil (h : scan.rest = []) (c : Char) :
    (accept c).run scan = .ok (false, scan) := by
  rw [accept, run_bind_ok (run_peek_nil h)]
  rfl

end Run

/-- An escaped character that is special stands for itself. -/
theorem escapeNode_special {c : Char} (h : c ∈ special) (flags : Flags) :
    escapeNode flags c = pure (.one (.char flags.rule false c.toNat)) := by
  -- with `all` it is decided over the characters listed, and not over all that there are
  have hspecial : ∀ ascii, special.all (fun c => (anchorEscape? ascii c).isNone &&
      (classEscape? ascii c).isNone && (codeEscape? c).isNone &&
      !(isAsciiLetter c || isAsciiDigit c) &&
      shortEscape? c == if c = '\\' then some c.toNat else none) = true := by decide
  have hc := List.all_eq_true.mp (hspecial flags.ascii) c h
  simp only [Bool.and_eq_true, Option.isNone_iff_eq_none, Bool.not_eq_true', beq_iff_eq] at hc
  obtain ⟨⟨⟨⟨hanchor, hkind⟩, hcode⟩, hletter⟩, hshort⟩ := hc
  have hzero : c ≠ '0' := by
    rintro rfl
    exact absurd h (by decide)
  have hdigit : isAsciiDigit c = false := (Bool.or_eq_false_iff.mp hletter).2
  rw [escapeNode, hanchor, hkind, hcode, hshort]
  by_cases hslash : c = '\\'
  · rw [if_pos hslash]
  · rw [if_neg hslash]
    dsimp only
    rw [if_neg hzero, hdigit, if_neg (by decide), plainEscape, hletter]
    rfl

theorem run_row_letter (spot : Spot) (hv : spot.flags.verbose = false) (fuel : Nat)
    (done : List Piece) (c : Char) {scan : Scan} {rest : List Token}
    (h : scan.rest = letter c :: rest) :
    (row spot (fuel + 1) done).run scan =
      (row spot fuel (literal spot.flags c :: done)).run { scan with rest := rest } := by
  have hskip : skip.run scan = .ok ((), { scan with rest := rest }) := by rw [run_skip, h]; rfl
  rw [row]
  by_cases hc : c ∈ special
  · rw [letter, if_pos hc] at h
    rw [run_bind_ok (run_peek_cons h (by simp))]
    dsimp only
    rw [run_bind_ok hskip, escapeNode_special hc, run_bind_ok (run_pure _ _)]
    rfl
  · rw [letter, if_neg hc] at h
    rw [run_bind_ok (run_peek_cons h (by simp))]
    -- the characters that the reader looks for are special
    have hne {d : Char} (hd : d ∈ special) : c ≠ d := fun heq => hc (heq ▸ hd)
    have hchar {d e : Char} (heq : some (Token.char d) = some (Token.char e)) : d = e := by
      simpa using heq
    split
    case h_1 heq => cases heq
    case h_2 heq => exact absurd (hchar heq) (hne (by decide))
    case h_3 heq => exact absurd (hchar heq) (hne (by decide))
    case h_4 heq => cases heq
    case h_5 heq => cases heq
    case h_6 heq =>
      obtain rfl := hchar heq
      rw [run_bind_ok hskip, hv, Bool.false_and, Bool.false_and, if_neg (by decide),
        if_neg (by decide)]
      split
      case h_10 => rfl
      all_goals exact absurd rfl (hne (by decide))

/-- Reading an escaped text adds its characters to the row. -/
theorem run_row_letters (spot : Spot) (hv : spot.flags.verbose = false) (fuel : Nat)
    (s : List Char) (done : List Piece) {scan : Scan} {rest : List Token}
    (h : scan.rest = s.map letter ++ rest) :
    (row spot (fuel + s.length) done).run scan =
      (row spot fuel ((s.map (literal spot.flags)).reverse ++ done)).run { scan with rest := rest }
      := by
  induction s generalizing done scan with
  | nil =>
      obtain rfl : scan.rest = rest := h
      rfl
  | cons c s ih =>
      rw [List.length_cons, ← Nat.add_assoc, run_row_letter spot hv _ done c h, ih _ rfl,
        List.map_cons, List.reverse_cons, List.append_assoc]
      rfl

/-- A word boundary. -/
def boundary : Node := .anchor (.boundary false false)

theorem run_row_boundary (spot : Spot) (ha : spot.flags.ascii = false) (fuel : Nat)
    (done : List Piece) {scan : Scan} {rest : List Token} (h : scan.rest = .escape 'b' :: rest) :
    (row spot (fuel + 1) done).run scan =
      (row spot fuel (.part boundary :: done)).run { scan with rest := rest } := by
  have hskip : skip.run scan = .ok ((), { scan with rest := rest }) := by rw [run_skip, h]; rfl
  have hnode : escapeNode spot.flags 'b' = pure (.anchor (.boundary spot.flags.ascii false)) := rfl
  rw [row, run_bind_ok (run_peek_cons h (by simp))]
  dsimp only
  rw [run_bind_ok hskip, hnode, run_bind_ok (run_pure _ _), ha, boundary]

/-- Where nothing is left to read a row is complete. -/
theorem run_row_nil (spot : Spot) (fuel : Nat) (done : List Piece) {scan : Scan}
    (h : scan.rest = []) :
    (row spot (fuel + 1) done).run scan = .ok (done.reverse.flatMap Piece.nodes, scan) := by
  rw [row, run_bind_ok (run_peek_nil h)]
  rfl

end Triage.Regex

namespace Triage.Keyword

open Regex Reading

/-- The parts of a keyword's expression: its characters, whatever their case, between boundaries. -/
def parts (keyword : String) : List Node :=
  boundary :: keyword.toList.map (fun c => .one (.char .ignore false c.toNat)) ++ [boundary]

theorem tokens_expression (keyword : String) :
    tokens (expression keyword).toList =
      .escape 'b' :: (keyword.toList.map letter ++ [.escape 'b']) := by
  have hfront (rest : List Char) : tokens ('\\' :: 'b' :: rest) = .escape 'b' :: tokens rest := rfl
  have hlist : (expression keyword).toList =
      '\\' :: 'b' :: (Regex.escape keyword.toList ++ ['\\', 'b']) := by
    simp [expression]
  rw [hlist, hfront, tokens_escape]
  rfl

/-- The flags with which a keyword is read, and what the reader keeps of what it has read. -/
def flags : Flags := { Flags.none with ignoreCase := true }

/-- The reader of a keyword with letters to come; nothing in a keyword is kept along. -/
def scan (rest : List Token) : Scan := ⟨rest, flags, [], [none], [], none, [], false, false⟩

/-- The row is read in one step for each letter, and one for the end. -/
theorem run_row (keyword : String) (fuel : Nat) :
    (row ⟨flags, true⟩ (fuel + 1 + 1 + keyword.toList.length + 1) []).run
        (scan (tokens (expression keyword).toList)) =
      .ok (parts keyword, scan []) := by
  have hfront : (scan (tokens (expression keyword).toList)).rest =
      .escape 'b' :: (keyword.toList.map letter ++ [.escape 'b']) := tokens_expression keyword
  have hinner : (scan (keyword.toList.map letter ++ [.escape 'b'])).rest =
      keyword.toList.map letter ++ [.escape 'b'] := rfl
  have hback : (scan [.escape 'b']).rest = .escape 'b' :: [] := rfl
  have hend : (scan []).rest = [] := rfl
  have hnodes (s : List Char) : (s.map (literal flags)).flatMap Piece.nodes =
      s.map fun c => .one (.char .ignore false c.toNat) := by
    induction s with
    | nil => rfl
    | cons c s ih => rw [List.map_cons, List.flatMap_cons, ih, List.map_cons]; rfl
  rw [run_row_boundary _ rfl _ _ hfront]
  show (row ⟨flags, true⟩ (fuel + 1 + 1 + keyword.toList.length) [.part boundary]).run
    (scan (keyword.toList.map letter ++ [.escape 'b'])) = _
  rw [run_row_letters _ rfl _ _ _ hinner]
  show (row ⟨flags, true⟩ (fuel + 1 + 1) _).run (scan [.escape 'b']) = _
  rw [run_row_boundary _ rfl _ _ hback]
  show (row ⟨flags, true⟩ (fuel + 1) _).run (scan []) = _
  rw [run_row_nil _ _ _ hend]
  simp [parts, hnodes, Piece.nodes]

theorem run_rows (keyword : String) (fuel : Nat) :
    (rows true true flags (fuel + 1 + 1 + keyword.toList.length + 1 + 1)).run
        (scan (tokens (expression keyword).toList)) =
      .ok ([parts keyword], scan []) := by
  rw [rows, Bool.true_and, run_bind_ok (run_row keyword fuel),
    run_bind_ok (run_accept_nil rfl '|')]
  rfl

/-- **The expression of a keyword is read as the keyword**, whatever its characters are. -/
theorem compile_expression (keyword : String) :
    compile true (expression keyword) = .ok ⟨Node.ofList (parts keyword), 0, []⟩ := by
  have hfuel : 3 * (tokens (expression keyword).toList).length + 3 =
      (2 * keyword.toList.length + 5) + 1 + 1 + keyword.toList.length + 1 + 1 := by
    rw [tokens_expression]
    simp only [List.length_cons, List.length_append, List.length_map, List.length_nil]
    omega
  generalize hletters : tokens (expression keyword).toList = letters at hfuel
  have hrows := hletters ▸ run_rows keyword (2 * keyword.toList.length + 5)
  have hget : (get : Reading Scan).run (scan letters) = .ok (scan letters, scan letters) := rfl
  have hflags : (scan letters).flags = flags := rfl
  have hend : (get : Reading Scan).run (scan []) = .ok (scan [], scan []) := rfl
  have hwhole : (whole (3 * letters.length + 3)).run (scan letters) =
      .ok (⟨Node.ofList (parts keyword), 0, []⟩, scan []) := by
    rw [whole, run_bind_ok hget, hflags, hfuel, run_bind_ok hrows, run_bind_ok hend]
    rfl
  rw [compile, hletters]
  show ((whole (3 * letters.length + 3)).run (scan letters)).map Prod.fst = _
  rw [hwhole]
  rfl

end Triage.Keyword
