import Triage.Json.Basic
import Triage.Decimal.Numeral
import Triage.Text.Point

/-!
# Reading JSON

The reader follows the grammar of RFC 8259 with three additions: `NaN`, `Infinity` and `-Infinity`
are numbers. A name given twice in an object keeps its first place and its last value. Where a text
is no JSON value the fault says what was expected and where; a place is kept as the number of
characters still to read, so that the reader needs no counter.

An escape may name half of a surrogate pair without the other half. A string is therefore read as
code points, and how these are spelled as a `String` is left to the caller: most show the replacement
character in the place of such a half, and the reader of a catalogue keeps it.

Values nest as deeply as the text has them; there is no limit as interpreters have one.
-/

namespace Triage.Json

open Text

/-- What is wrong at a place of a text. -/
inductive Mistake where
  | value
  | name
  | colon
  | comma
  | extra
  | openString
  | control
  | escape
  | unicodeEscape
  | byteOrderMark
  deriving DecidableEq, Repr

/-- Why a text is not a JSON value: a mistake with `remaining` characters left to read, or a whole
number of more digits than are read. -/
inductive ReadFault where
  | mistake (kind : Mistake) (remaining : Nat)
  | digits (count : Nat)
  deriving DecidableEq, Repr

/-- The words for a mistake. -/
def Mistake.text : Mistake → String
  | .value => "Expecting value"
  | .name => "Expecting property name enclosed in double quotes"
  | .colon => "Expecting ':' delimiter"
  | .comma => "Expecting ',' delimiter"
  | .extra => "Extra data"
  | .openString => "Unterminated string starting at"
  | .control => "Invalid control character at"
  | .escape => "Invalid \\escape"
  | .unicodeEscape => "Invalid \\uXXXX escape"
  | .byteOrderMark => "Unexpected UTF-8 BOM (decode using utf-8-sig)"

/-- The most digits of a whole number. -/
def digitLimit : Nat := 4300

/-- The message for a whole number of too many digits. -/
def digitsMessage (count : Nat) : String :=
  s!"Exceeds the limit ({ofNat digitLimit} digits) for integer string conversion: value has " ++
    s!"{ofNat count} digits; use sys.set_int_max_str_digits() to increase the limit"

/-- The message for a fault in `text`: lines and columns count from one, characters from zero. -/
def ReadFault.message (text : List Char) : ReadFault → String
  | .digits count => digitsMessage count
  | .mistake kind remaining =>
    let position := text.length - remaining
    let before := text.take position
    let line := before.count '\n' + 1
    let column := (before.reverse.takeWhile (· ≠ '\n')).length + 1
    s!"{kind.text}: line {ofNat line} column {ofNat column} (char {ofNat position})"

/-- A mistake where `rest` is still to be read. -/
def mistakeAt {α : Type} (kind : Mistake) (rest : List Char) : Except ReadFault α :=
  .error (.mistake kind rest.length)

/-- White space between the parts of a value. -/
def isGap (c : Char) : Bool := c == ' ' || c == '\t' || c == '\n' || c == '\r'

/-- Drops white space in front. -/
def skipGap (s : List Char) : List Char := s.dropWhile isGap

/-- The number that four digits in base sixteen denote. -/
def hex4? (a b c d : Char) : Option Nat := do
  let a ← hexValue? a
  let b ← hexValue? b
  let c ← hexValue? c
  let d ← hexValue? d
  return ((a * 16 + b) * 16 + c) * 16 + d

/-- What a short escape stands for. -/
def escaped? (c : Char) : Option Char :=
  match c with
  | '"' => some '"'
  | '\\' => some '\\'
  | '/' => some '/'
  | 'b' => some (Char.ofNat 8)
  | 'f' => some (Char.ofNat 12)
  | 'n' => some '\n'
  | 'r' => some '\r'
  | 't' => some '\t'
  | _ => none

/-- Reads a string after its opening quote, up to and including the closing one; `start` is what
was left at the opening quote. A code in base sixteen must not be the end of the text. -/
def stringBody (start : Nat) : List Char → Except ReadFault (List Point × List Char)
  | [] => .error (.mistake .openString start)
  | '"' :: rest => .ok ([], rest)
  | '\\' :: 'u' :: a :: b :: c :: d :: '\\' :: 'u' :: e :: f :: g :: h :: i :: rest =>
    match hex4? a b c d with
    | none =>
      mistakeAt .unicodeEscape
        ('u' :: a :: b :: c :: d :: '\\' :: 'u' :: e :: f :: g :: h :: i :: rest)
    | some high =>
      if 0xd800 ≤ high ∧ high < 0xdc00 then
        match hex4? e f g h with
        | none => mistakeAt .unicodeEscape ('u' :: e :: f :: g :: h :: i :: rest)
        | some low =>
          if 0xdc00 ≤ low ∧ low < 0xe000 then
            (stringBody start (i :: rest)).map fun (text, rest) =>
              (.char (Char.ofNat (0x10000 + (high - 0xd800) * 1024 + (low - 0xdc00))) :: text, rest)
          else
            (stringBody start ('\\' :: 'u' :: e :: f :: g :: h :: i :: rest)).map
              fun (text, rest) => (.ofCode high :: text, rest)
      else
        (stringBody start ('\\' :: 'u' :: e :: f :: g :: h :: i :: rest)).map fun (text, rest) =>
          (.ofCode high :: text, rest)
  | '\\' :: 'u' :: a :: b :: c :: d :: e :: rest =>
    match hex4? a b c d with
    | none => mistakeAt .unicodeEscape ('u' :: a :: b :: c :: d :: e :: rest)
    | some code =>
      (stringBody start (e :: rest)).map fun (text, rest) => (.ofCode code :: text, rest)
  | '\\' :: 'u' :: rest => mistakeAt .unicodeEscape ('u' :: rest)
  | ['\\'] => .error (.mistake .openString start)
  | '\\' :: c :: rest =>
    match escaped? c with
    | some c => (stringBody start rest).map fun (text, rest) => (.char c :: text, rest)
    | none => mistakeAt .escape ('\\' :: c :: rest)
  | c :: rest =>
    if c.toNat < 32 then mistakeAt .control (c :: rest)
    else (stringBody start rest).map fun (text, rest) => (.char c :: text, rest)

/-- The digits of an exponent and what follows them; an exponent without digits is none. -/
def exponentPart (rest : List Char) : Option (Int × List Char) :=
  let digits (negative : Bool) (s : List Char) : Option (Int × List Char) :=
    let row := s.takeWhile isAsciiDigit
    if row = [] then none
    else
      let n : Int := natOfDigits row
      some (if negative then -n else n, s.dropWhile isAsciiDigit)
  match rest with
  | 'e' :: '-' :: s | 'E' :: '-' :: s => digits true s
  | 'e' :: '+' :: s | 'E' :: '+' :: s => digits false s
  | 'e' :: s | 'E' :: s => digits false s
  | _ => none

/-- The digits of a fraction and what follows them; a point without digits is none. -/
def fractionPart (rest : List Char) : Option (List Char × List Char) :=
  match rest with
  | '.' :: s =>
    let row := s.takeWhile isAsciiDigit
    if row = [] then none else some (row, s.dropWhile isAsciiDigit)
  | _ => none

/-- Reads a number: no zero in front of other digits, and a fraction or an exponent only where it
is complete. -/
def number (s : List Char) : Except ReadFault (Json × List Char) :=
  let (negative, body) := match s with
    | '-' :: rest => (true, rest)
    | _ => (false, s)
  let whole := match body with
    | '0' :: _ => ['0']
    | _ => body.takeWhile isAsciiDigit
  if whole = [] then mistakeAt .value s
  else
    let rest := body.drop whole.length
    let fraction := fractionPart rest
    let (digits, rest) := fraction.getD ([], rest)
    let power := exponentPart rest
    let (exponent, rest) := power.getD (0, rest)
    if fraction.isSome || power.isSome then
      let n := natOfDigits (whole ++ digits)
      .ok (.float (Binary64.ofDecimal negative n (exponent - digits.length)), rest)
    else if digitLimit < whole.length then .error (.digits whole.length)
    else
      let n : Int := natOfDigits whole
      .ok (.int (if negative then -n else n), rest)

section Spelling

variable (spell : List Point → String)

mutual

/-- Reads a value at the start of the text; `fuel` bounds the parts read. -/
def value : Nat → List Char → Except ReadFault (Json × List Char)
  | 0, s => mistakeAt .value s
  | fuel + 1, s =>
    match s with
    | '"' :: rest =>
      (stringBody s.length rest).map fun (text, rest) => (.string (spell text), rest)
    | '{' :: rest =>
      match skipGap rest with
      | '}' :: rest => .ok (.object [], rest)
      | inner => (members fuel [] inner).map fun (fields, rest) => (.object fields, rest)
    | '[' :: rest =>
      match skipGap rest with
      | ']' :: rest => .ok (.array [], rest)
      | inner => (elements fuel inner).map fun (items, rest) => (.array items, rest)
    | 'n' :: 'u' :: 'l' :: 'l' :: rest => .ok (.null, rest)
    | 't' :: 'r' :: 'u' :: 'e' :: rest => .ok (.bool true, rest)
    | 'f' :: 'a' :: 'l' :: 's' :: 'e' :: rest => .ok (.bool false, rest)
    | 'N' :: 'a' :: 'N' :: rest => .ok (.float .nan, rest)
    | 'I' :: 'n' :: 'f' :: 'i' :: 'n' :: 'i' :: 't' :: 'y' :: rest =>
      .ok (.float (.infinite false), rest)
    | '-' :: 'I' :: 'n' :: 'f' :: 'i' :: 'n' :: 'i' :: 't' :: 'y' :: rest =>
      .ok (.float (.infinite true), rest)
    | _ => number s

/-- Reads the members of an object up to its closing brace; `done` holds those read before. -/
def members : Nat → Record → List Char → Except ReadFault (Record × List Char)
  | 0, _, s => mistakeAt .name s
  | fuel + 1, done, s =>
    match s with
    | '"' :: rest => do
      let (name, rest) ← stringBody s.length rest
      match skipGap rest with
      | ':' :: rest =>
        let (v, rest) ← value fuel (skipGap rest)
        let done := done.set (spell name) v
        match skipGap rest with
        | '}' :: rest => .ok (done, rest)
        | ',' :: rest => members fuel done (skipGap rest)
        | rest => mistakeAt .comma rest
      | rest => mistakeAt .colon rest
    | _ => mistakeAt .name s

/-- Reads the elements of an array up to its closing bracket. -/
def elements : Nat → List Char → Except ReadFault (List Json × List Char)
  | 0, s => mistakeAt .value s
  | fuel + 1, s => do
    let (v, rest) ← value fuel s
    match skipGap rest with
    | ']' :: rest => .ok ([v], rest)
    | ',' :: rest =>
      let (items, rest) ← elements fuel (skipGap rest)
      .ok (v :: items, rest)
    | rest => mistakeAt .comma rest

end

/-- Reads a text that holds one value and nothing else but white space around it. Each character
accounts for at most two of the parts that the fuel counts. -/
def parseDocumentBy (s : List Char) : Except ReadFault Json := do
  let (v, rest) ← value spell (2 * s.length + 2) (skipGap s)
  match skipGap rest with
  | [] => .ok v
  | rest => mistakeAt .extra rest

end Spelling

/-- Reads a text that holds one value and nothing else but white space around it. -/
def parseDocument (s : List Char) : Except ReadFault Json := parseDocumentBy shown s

/-- Reads a text that holds one value and does not start with a mark of the byte order. -/
def parseChars (s : List Char) : Except ReadFault Json :=
  match s with
  | c :: _ => if c.toNat = 0xfeff then mistakeAt .byteOrderMark s else parseDocument s
  | [] => parseDocument s

/-- Reads a text that holds one value. -/
def parse (s : String) : Except ReadFault Json := parseChars s.toList

end Triage.Json
