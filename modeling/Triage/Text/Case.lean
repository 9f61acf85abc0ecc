import Triage.Text.Table.Case

/-!
# Case mappings

Lower and upper case on code points, one to one, and of texts, where one character may become
several. Two characters that agree when case is ignored need not have one lower case; `equalCase`
lists the exceptions.
-/

namespace Triage.Text

/-- The distance by which a table of runs moves a code point. -/
def shiftIn (runs : List Table.Run) (n : Nat) : Int :=
  match runs.find? fun r => r.first ≤ n && n ≤ r.last && (n - r.first) % r.step == 0 with
  | some r => r.shift
  | none => 0

/-- Lower case of one ASCII code point; all others stay. -/
def asciiLowerPoint (n : Nat) : Nat := if 65 ≤ n ∧ n ≤ 90 then n + 32 else n

/-- Lower case of one code point. -/
def lowerPoint (n : Nat) : Nat :=
  if n < 128 then asciiLowerPoint n else ((n : Int) + shiftIn Table.lower n).toNat

/-- Upper case of one code point. -/
def upperPoint (n : Nat) : Nat :=
  if n < 128 then (if 97 ≤ n ∧ n ≤ 122 then n - 32 else n)
  else ((n : Int) + shiftIn Table.upper n).toNat

/-- The other lower case characters that equal `n` when case is ignored. -/
def equalCase (n : Nat) : List Nat := (Table.equalCase.lookup n).getD []

/-- Lower case of a character. The capital dotted I keeps its dot as a mark of its own. -/
def lowerChar (c : Char) : List Char :=
  if c.toNat = 0x130 then ['i', Char.ofNat 0x307] else [Char.ofNat (lowerPoint c.toNat)]

/-- Lower case of a text. A capital sigma gets its usual small form, also at the end of a word. -/
def lower (s : String) : String := String.ofList (s.toList.flatMap lowerChar)

/-- Upper case of a character, which may have several characters. -/
def upperChar (c : Char) : List Char :=
  match Table.severalUpper.lookup c.toNat with
  | some points => points.map Char.ofNat
  | none => [Char.ofNat (upperPoint c.toNat)]

/-- Upper case of a text. -/
def upper (s : String) : String := String.ofList (s.toList.flatMap upperChar)

end Triage.Text
