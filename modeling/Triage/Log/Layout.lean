import Triage.Regex.Matcher
import Triage.Regex.Reader
import Triage.Text.Quoted

/-!
# Layouts of lines

A layout is a text with fields: a percent sign, the name of the field in parentheses, then how it is
set. A field can be set to the left or to the right of a width, numbers with zeros in front, texts
cut to a length. Two percent signs stand for one.
-/

namespace Triage.Log

/-- The value of a field. -/
inductive Value where
  | text (s : String)
  | number (n : Int)
  deriving DecidableEq, Repr

/-- How a field is set. -/
structure Setting where
  /-- The flags in front, each a character. -/
  flags : List Char
  width : Nat
  /-- The length to cut a text to. -/
  length : Option Nat
  /-- What kind of value the field is set as. -/
  kind : Char
  deriving DecidableEq, Repr

/-- A field of a layout. -/
structure Field where
  name : String
  setting : Setting
  deriving DecidableEq, Repr

/-- A field at the front of a text that follows a percent sign, and what comes after it. -/
def field? (s : List Char) : Option (Field × List Char) :=
  match s with
  | '(' :: rest =>
    let name := rest.takeWhile (· ≠ ')')
    let rest := (rest.dropWhile (· ≠ ')')).drop 1
    let isFlag (c : Char) : Bool := "-+ #0".toList.contains c
    let flags := rest.takeWhile isFlag
    let rest := rest.dropWhile isFlag
    let width := Text.natOfDigits (rest.takeWhile Text.isAsciiDigit)
    let rest := rest.dropWhile Text.isAsciiDigit
    let (length, rest) := match rest with
      | '.' :: rest =>
        (some (Text.natOfDigits (rest.takeWhile Text.isAsciiDigit)),
          rest.dropWhile Text.isAsciiDigit)
      | _ => (none, rest)
    match rest with
    | kind :: rest => some (⟨String.ofList name, flags, width, length, kind⟩, rest)
    | [] => none
  | _ => none

/-- Fills a text up to a width. -/
def pad (left : Bool) (width : Nat) (s : String) : String :=
  let blanks := String.ofList (List.replicate (width - s.length) ' ')
  if left then s ++ blanks else blanks ++ s

/-- A number with its sign and with zeros in front. -/
def numberText (setting : Setting) (n : Int) : String :=
  let sign := if n < 0 then "-" else if '+' ∈ setting.flags then "+"
    else if ' ' ∈ setting.flags then " " else ""
  let digits := Text.ofNat n.natAbs
  let least := setting.length.getD 0
  let filled := if '0' ∈ setting.flags ∧ '-' ∉ setting.flags then setting.width - sign.length
    else 0
  sign ++ String.ofList (List.replicate (max least filled - digits.length) '0') ++ digits

/-- A field's value as it is set, if it can be set so. -/
def Setting.apply? (setting : Setting) (value : Value) : Option String :=
  let cut (s : String) : String := match setting.length with
    | some n => Text.takeFirst n s
    | none => s
  let place := pad ('-' ∈ setting.flags) setting.width
  match setting.kind, value with
  | 's', .text s => some (place (cut s))
  | 's', .number n => some (place (cut (Text.ofInt n)))
  | 'r', .text s => some (place (cut (Text.quoted s)))
  | 'r', .number n => some (place (cut (Text.ofInt n)))
  | 'd', .number n | 'i', .number n | 'u', .number n => some (place (numberText setting n))
  | '%', _ => some "%"
  | _, _ => none

/-- Fills a layout of at most `fuel` characters. -/
def fillFrom (value? : String → Option Value) : Nat → List Char → Option (List Char)
  | 0, _ | _, [] => some []
  | fuel + 1, '%' :: '%' :: rest => (fillFrom value? fuel rest).map ('%' :: ·)
  | fuel + 1, '%' :: rest => do
    let (field, rest) ← field? rest
    let s ← field.setting.apply? (← value? field.name)
    return s.toList ++ (← fillFrom value? fuel rest)
  | fuel + 1, c :: rest => (fillFrom value? fuel rest).map (c :: ·)

/-- Fills a layout, if all of its fields are there and can be set as it says. -/
def fill (value? : String → Option Value) (layout : String) : Option String :=
  (fillFrom value? layout.length layout.toList).map String.ofList

/-- The form of a field. -/
def fieldExpression : String :=
  "%\\(\\w+\\)[#0+ -]*(\\*|\\d+)?(\\.(\\*|\\d+))?[diouxefgcrsa%]"

/-- The layout has a field. -/
def hasField (layout : String) : Bool :=
  match Regex.compile true fieldExpression with
  | .ok pattern => (pattern.search? layout).isSome
  | .error _ => false

end Triage.Log
