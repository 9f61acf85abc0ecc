import Triage.Decimal.Binary64
import Triage.Text.Case
import Triage.Text.Basic

/-!
# Reading numbers

A numeral is a sign, then digits with at most one point among them and perhaps an exponent, or the
word for an infinity or for no number. Around this core stand two readers: one for numbers captured
from running text, which may use the digits of any script, and one for text given where a document
asks for a number.
-/

namespace Triage.Numeral

open Text

/-- The whole number of an exponent: a sign and at least one digit, and nothing else. -/
def exponent? (s : List Char) : Option Int :=
  let whole (digits : List Char) : Option Nat :=
    if digits ≠ [] ∧ digits.all isAsciiDigit then some (natOfDigits digits) else none
  match s with
  | '-' :: rest => (whole rest).map fun n => -(n : Int)
  | '+' :: rest => (whole rest).map Int.ofNat
  | _ => (whole s).map Int.ofNat

/-- Digits with at most one point and perhaps an exponent: `(n, e)` stands for `n * 10 ^ e`. -/
def unsigned? (s : List Char) : Option (Nat × Int) :=
  let whole := s.takeWhile isAsciiDigit
  let rest := s.dropWhile isAsciiDigit
  let (fraction, rest) :=
    match rest with
    | '.' :: rest => (rest.takeWhile isAsciiDigit, rest.dropWhile isAsciiDigit)
    | _ => ([], rest)
  if whole ++ fraction = [] then none
  else
    let n := natOfDigits (whole ++ fraction)
    match rest with
    | [] => some (n, -(fraction.length : Int))
    | c :: rest =>
      if c = 'e' ∨ c = 'E' then
        (exponent? rest).map fun e => (n, e - fraction.length)
      else none

/-- The part of a numeral after its sign. -/
def magnitude? (negative : Bool) (s : List Char) : Option Binary64 :=
  let word := s.map fun c => Char.ofNat (asciiLowerPoint c.toNat)
  if word = "inf".toList ∨ word = "infinity".toList then some (.infinite negative)
  else if word = "nan".toList then some .nan
  else (unsigned? s).map fun (n, e) => Binary64.ofDecimal negative n e

/-- A numeral and nothing else. -/
def number? : List Char → Option Binary64
  | '-' :: rest => magnitude? true rest
  | '+' :: rest => magnitude? false rest
  | s => magnitude? false s

/-- Every low line stands between two digits. -/
def groupsDigits (before : Bool) : List Char → Bool
  | [] => true
  | '_' :: rest =>
    before && (match rest with | c :: _ => isAsciiDigit c | [] => false) && groupsDigits false rest
  | c :: rest => groupsDigits (isAsciiDigit c) rest

/-- A character of running text as a numeral has it: every space is the plain one and every digit
is an ASCII one. -/
def plainChar (c : Char) : Char :=
  if c.toNat < 127 then c
  else if isSpace c then ' '
  else match decimalValue? c.toNat with
    | some d => Char.ofNat (48 + d)
    | none => '?'

/-- Space in ASCII. -/
def isAsciiSpace (c : Char) : Bool := (9 ≤ c.toNat && c.toNat ≤ 13) || c == ' '

/-- A number in running text: space around it does not count, the digits may be of any script and
low lines may group them. -/
def captured? (s : String) : Option Binary64 :=
  let s := s.toList
  let s := if s.all fun c => c.toNat < 128 then s else s.map plainChar
  let s := dropEndWhile isAsciiSpace (s.dropWhile isAsciiSpace)
  if '_' ∈ s then
    if groupsDigits false s then number? (s.filter (· ≠ '_')) else none
  else number? s

/-- A whole number in running text: space around it does not count, it may have a sign, the digits
may be of any script and low lines may group them. -/
def integer? (s : List Char) : Option Int :=
  let s := trimChars s
  let (negative, s) := match s with
    | '-' :: rest => (true, rest)
    | '+' :: rest => (false, rest)
    | _ => (false, s)
  let digits := s.filter (· ≠ '_')
  let grouped := s.head? ≠ some '_' && s.getLast? ≠ some '_' && !occursIn ['_', '_'] s
  if digits ≠ [] && grouped && digits.all fun c => isDecimalPoint c.toNat then
    let n := digits.foldl (fun n c => 10 * n + (decimalValue? c.toNat).getD 0) 0
    some (if negative then -(n : Int) else n)
  else none

/-- Takes out low lines, where there are some, none stands at an end and no two stand together. -/
def ungrouped? (s : List Char) : Option (List Char) :=
  if '_' ∈ s ∧ s.head? ≠ some '_' ∧ s.getLast? ≠ some '_' ∧ !occursIn ['_', '_'] s then
    some (s.filter (· ≠ '_'))
  else none

/-- A number given as text: a numeral with white space around it, or one whose digits are grouped
by low lines. -/
def given? (s : String) : Option Binary64 :=
  let s := s.toList
  match number? (dropEndWhile isBlank (s.dropWhile isBlank)) with
  | some x => some x
  | none => (ungrouped? s).bind number?

/-- Digits and nothing else. -/
def natural? (s : List Char) : Option Nat :=
  if s ≠ [] ∧ s.all isAsciiDigit then some (natOfDigits s) else none

/-- Drops a point that only zeros follow. -/
def dropZeroFraction (s : List Char) : List Char :=
  match s.dropWhile (· ≠ '.') with
  | '.' :: zeros => if zeros.all (· == '0') then s.takeWhile (· ≠ '.') else s
  | _ => s

/-- Drops zeros in front of other digits, and low lines among them. -/
def dropLeadingZeros : List Char → List Char
  | '0' :: rest =>
    match rest.dropWhile fun c => c == '0' || c == '_' with
    | [] => ['0']
    | '.' :: more => '0' :: '.' :: more
    | more => more
  | s => s

/-- A whole number given as text: with white space around it, a sign, zeros in front, low lines
that group its digits and a fraction of zeros. -/
def givenInteger? (s : String) : Option Int :=
  let s := s.toList
  let s := dropEndWhile isBlank (s.dropWhile isBlank)
  let (negative, s) :=
    match s with
    | '-' :: rest => (true, rest)
    | '+' :: rest => (false, rest)
    | _ => (false, s)
  let size :=
    match natural? s with
    | some n => some n
    | none =>
      let s := dropZeroFraction (dropLeadingZeros s)
      natural? ((ungrouped? s).getD s)
  size.map fun n => if negative then -(n : Int) else n

end Triage.Numeral
