import Triage.Schema.Checked
import Triage.Json.Basic
import Triage.Decimal.Numeral

/-!
# Checks of fields

Checks of single values and of the fields of an object. Texts are never made from other values;
numbers and truth values may be given as text, in the forms that version 2.14 of pydantic takes when
it is not strict.
-/

namespace Triage.Schema

open Checked

variable {α : Type}

/-- A text. -/
def text : Json → Checked String
  | .string s => valid s
  | _ => fault .notText

/-- A text that is not empty. -/
def nonEmptyText : Json → Checked { s : String // s ≠ "" }
  | .string s => if h : s ≠ "" then valid ⟨s, h⟩ else fault .emptyText
  | _ => fault .notText

/-- A number with a fraction, made from a whole number, a truth value or a text where needed. -/
def number : Json → Checked Binary64
  | .float x => valid x
  | .int n =>
    let x := Binary64.ofInt n
    if x.isFinite then valid x else fault .notNumber
  | .bool b => valid (Binary64.ofInt (if b then 1 else 0))
  | .string s =>
    match Numeral.given? s with
    | some x => valid x
    | none => fault .unreadableNumber
  | _ => fault .notNumber

/-- A number from `low` to `high`. -/
def numberBetween (low high : Binary64) (v : Json) : Checked Binary64 :=
  (number v).andThen fun x =>
    if !x.le high then fault .notAtMost else if !low.le x then fault .notAtLeast else valid x

/-- A number above `low`. -/
def numberAbove (low : Binary64) (v : Json) : Checked Binary64 :=
  (number v).andThen fun x => if low.lt x then valid x else fault .notAbove

/-- The numbers of a signed word of 64 bits lie below this bound. -/
def wordBound : Nat := Nat.pow 2 63

/-- A whole number that a word of 64 bits holds. -/
def fitsWord (n : Int) : Bool := -(wordBound : Int) ≤ n && n < wordBound

/-- A number without a fraction stands for a whole number if a word holds that and its negative. -/
def wholeOfNumber (x : Binary64) : Checked Int :=
  match x.toInt? with
  | some n => if n.natAbs < wordBound then valid n else fault .tooLarge
  | none => fault (if x.isFinite then .fraction else .notFinite)

/-- The number of digits up to which a whole number is read from a text. -/
def wholeDigits : Nat := 4300

/-- A whole number, made from another number without a fraction, a truth value or a text where
needed. -/
def whole : Json → Checked Int
  | .int n => valid n
  | .bool b => valid (if b then 1 else 0)
  | .float x => wholeOfNumber x
  | .string s =>
    match Numeral.givenInteger? s with
    | some n => if n.natAbs < Nat.pow 10 wholeDigits then valid n else fault .tooLarge
    | none => fault .unreadableWhole
  | _ => fault .notWhole

/-- The words for a truth value. -/
def truthOfWord? (s : String) : Option Bool :=
  let word := String.ofList (s.toList.map Char.toLower)
  if word ∈ ["1", "t", "y", "on", "yes", "true"] then some true
  else if word ∈ ["0", "f", "n", "no", "off", "false"] then some false
  else none

/-- The truth value of a whole number, zero or one. -/
def truthOfInt (n : Int) : Checked Bool :=
  if n = 0 then valid false else if n = 1 then valid true else fault .unreadableTruth

/-- A truth value, made from zero, one or a word where needed. -/
def truth : Json → Checked Bool
  | .bool b => valid b
  | .string s =>
    match truthOfWord? s with
    | some b => valid b
    | none => fault .unreadableTruth
  | .int n => if fitsWord n then truthOfInt n else fault .notTruth
  | .float x =>
    match x.toInt? with
    | some n => if n.natAbs < wordBound then truthOfInt n else fault .notTruth
    | none => fault .notTruth
  | _ => fault .notTruth

/-- A value or null. -/
def optional (check : Json → Checked α) : Json → Checked (Option α)
  | .null => valid none
  | v => some <$> check v

/-- All elements, checked in order; the first has the index `i`. -/
def elementsFrom (check : Json → Checked α) : Nat → List Json → Checked (List α)
  | _, [] => valid []
  | i, v :: rest =>
    List.cons <$> (check v).under (.index i) <*> elementsFrom check (i + 1) rest

/-- A list. -/
def listOf (check : Json → Checked α) : Json → Checked (List α)
  | .array items => elementsFrom check 0 items
  | _ => fault .notList

/-- All members, checked in order. -/
def membersOf (check : Json → Checked α) : List (String × Json) → Checked (List (String × α))
  | [] => valid []
  | (name, v) :: rest =>
    List.cons <$> (Prod.mk name <$> (check v).under (.name name)) <*> membersOf check rest

/-- A map from names to values of one kind. -/
def mapOf (check : Json → Checked α) : Json → Checked (List (String × α))
  | .object fields => membersOf check fields
  | _ => fault .notMap

/-- A map from names to any values. -/
def anyMap : Json → Checked Record
  | .object fields => valid fields
  | _ => fault .notMap

/-- The fields of an object. -/
def object (check : Record → Checked α) : Json → Checked α
  | .object fields => check fields
  | _ => fault .notObject

/-- A field that must be present. -/
def required (r : Record) (name : String) (check : Json → Checked α) : Checked α :=
  match r.get? name with
  | some v => (check v).under (.name name)
  | none => (fault .missing).under (.name name)

/-- A field with a default. -/
def withDefault (r : Record) (name : String) (default : α) (check : Json → Checked α) :
    Checked α :=
  match r.get? name with
  | some v => (check v).under (.name name)
  | none => valid default

end Triage.Schema
