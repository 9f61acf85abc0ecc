import Triage.Text.Table.Alphanumeric
import Triage.Text.Table.Decimal
import Triage.Text.Table.Identifier
import Triage.Text.Table.Unprintable

/-!
# Classes of characters

The classes that the other modules of text ask about: space, letters and digits, the characters of
a name, the characters that have a visible form. ASCII is answered directly and the rest from the
tables of ranges.
-/

namespace Triage.Text

/-- The code point lies in one of the inclusive ranges. -/
def inRanges (ranges : List (Nat × Nat)) (n : Nat) : Bool :=
  ranges.any fun r => r.1 ≤ n && n ≤ r.2

/-- White space as Unicode defines it. -/
def isBlankPoint (n : Nat) : Bool :=
  (9 ≤ n && n ≤ 13) || n == 32 || n == 0x85 || n == 0xa0 || n == 0x1680 ||
    (0x2000 ≤ n && n ≤ 0x200a) || n == 0x2028 || n == 0x2029 || n == 0x202f || n == 0x205f ||
    n == 0x3000

/-- White space together with the four information separators, which end a line or a field. -/
def isSpacePoint (n : Nat) : Bool := isBlankPoint n || (28 ≤ n && n ≤ 31)

/-- An ASCII letter. -/
def isAsciiLetterPoint (n : Nat) : Bool := (65 ≤ n && n ≤ 90) || (97 ≤ n && n ≤ 122)

/-- An ASCII digit. -/
def isAsciiDigitPoint (n : Nat) : Bool := 48 ≤ n && n ≤ 57

/-- A letter or a number of any script. -/
def isAlphanumericPoint (n : Nat) : Bool :=
  isAsciiLetterPoint n || isAsciiDigitPoint n || (128 ≤ n && inRanges Table.alphanumeric n)

/-- A character of a word: a letter, a number or the low line. -/
def isWordPoint (n : Nat) : Bool := isAlphanumericPoint n || n == 95

/-- The value of a decimal digit of any script. -/
def decimalValue? (n : Nat) : Option Nat :=
  if isAsciiDigitPoint n then some (n - 48)
  else if n < 128 then none
  else (Table.decimalZero.find? fun z => z ≤ n && n ≤ z + 9).map (n - ·)

/-- A decimal digit of any script. -/
def isDecimalPoint (n : Nat) : Bool := (decimalValue? n).isSome

/-- Space, for trimming and for splitting. -/
def isSpace (c : Char) : Bool := isSpacePoint c.toNat

/-- Unicode white space, for reading numbers. -/
def isBlank (c : Char) : Bool := isBlankPoint c.toNat

/-- An ASCII digit. -/
def isAsciiDigit (c : Char) : Bool := isAsciiDigitPoint c.toNat

/-- An ASCII letter. -/
def isAsciiLetter (c : Char) : Bool := isAsciiLetterPoint c.toNat

/-- A character of a word. -/
def isWord (c : Char) : Bool := isWordPoint c.toNat

/-- A character that may start a name. -/
def isNameStart (c : Char) : Bool :=
  isAsciiLetter c || c == '_' || (128 ≤ c.toNat && inRanges Table.identifierStart c.toNat)

/-- A character that may stand inside a name. -/
def isNameContinue (c : Char) : Bool :=
  isAsciiLetter c || isAsciiDigit c || c == '_' ||
    (128 ≤ c.toNat && inRanges Table.identifierContinue c.toNat)

/-- A name: one character that starts names, then any that continue them. -/
def isName : List Char → Bool
  | [] => false
  | c :: rest => isNameStart c && rest.all isNameContinue

/-- A character with a visible form, the plain space included. -/
def isPrintable (c : Char) : Bool :=
  (32 ≤ c.toNat && c.toNat < 127) || (128 ≤ c.toNat && !inRanges Table.unprintable c.toNat)

/-- White space is space. -/
theorem isSpacePoint_of_isBlankPoint {n : Nat} (h : isBlankPoint n = true) :
    isSpacePoint n = true := by
  simp [isSpacePoint, h]

end Triage.Text
