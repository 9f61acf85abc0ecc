import Triage.Regex.Reading
import Triage.Text.Case
import Triage.Text.Table.Name

/-!
# Escapes

A backslash gives the character after it another meaning: a class of characters, a place in the text,
a character by its number or name, or a group by its number. Other letters may not be escaped; all
other characters then stand for themselves.
-/

namespace Triage.Regex

open Text Reading

/-- Octal digits. -/
def isOctal (c : Char) : Bool := '0' ≤ c && c ≤ '7'

/-- The number that octal digits denote. -/
def octal (digits : List Char) : Nat := digits.foldl (fun n c => 8 * n + (c.toNat - 48)) 0

/-- The number that digits in base sixteen denote. -/
def hexNumber (digits : List Char) : Nat :=
  digits.foldl (fun n c => 16 * n + (hexValue? c).getD 0) 0

/-- Reads a code of exactly `n` digits in base sixteen. -/
def hexCode (n : Nat) : Reading Nat := do
  let digits ← takeChars (fun c => (hexValue? c).isSome) n
  if digits.length ≠ n then refuse
  let code := hexNumber digits
  if 0x10ffff < code then refuse
  return code

/-- The character of a name, in capital or small letters. There is none for a name that the table
does not have. -/
def charOfName? (name : String) : Option Nat :=
  let name := upper name
  (Table.characterNames.findSome? fun row => (row.2.idxOf? name).map (row.1 + ·))

/-- Reads a name in braces and gives its character. -/
def namedCode : Reading Nat := do
  expect '\x7b'
  let name ← takeUntil '\x7d' (← bound) []
  match charOfName? (String.ofList name) with
  | some code => return code
  | none => refuse

/-- The characters that have a short escape. -/
def shortEscape? : Char → Option Nat
  | 'a' => some 7
  | 'b' => some 8
  | 'f' => some 12
  | 'n' => some 10
  | 'r' => some 13
  | 't' => some 9
  | 'v' => some 11
  | '\\' => some 92
  | _ => none

/-- The named classes by their letters. -/
def classEscape? (ascii : Bool) : Char → Option SetItem
  | 'd' => some (.named .digit ascii false)
  | 'D' => some (.named .digit ascii true)
  | 's' => some (.named .space ascii false)
  | 'S' => some (.named .space ascii true)
  | 'w' => some (.named .word ascii false)
  | 'W' => some (.named .word ascii true)
  | _ => none

/-- The anchors by their letters. -/
def anchorEscape? (ascii : Bool) : Char → Option Anchor
  | 'A' => some .textStart
  | 'b' => some (.boundary ascii false)
  | 'B' => some (.boundary ascii true)
  | 'Z' => some .textEnd
  | _ => none

/-- The code of a character that is written by a number or by its name. -/
def codeEscape? (c : Char) : Option (Reading Nat) :=
  match c with
  | 'x' => some (hexCode 2)
  | 'u' => some (hexCode 4)
  | 'U' => some (hexCode 8)
  | 'N' => some namedCode
  | _ => none

/-- An escape that has no other meaning stands for its character, unless that is a letter or a
digit of ASCII. -/
def plainEscape (c : Char) : Reading Nat := do
  if isAsciiLetter c || isAsciiDigit c then refuse
  return c.toNat

/-- Reads an escape inside a set. -/
def setEscape (flags : Flags) (c : Char) : Reading SetItem := do
  match shortEscape? c, classEscape? flags.ascii c, codeEscape? c with
  | some code, _, _ => return .char code
  | none, some item, _ => return item
  | none, none, some code => return .char (← code)
  | none, none, none =>
    if isOctal c then
      let code := octal (c :: (← takeChars isOctal 2))
      if 0o377 < code then refuse
      return .char code
    return .char (← plainEscape c)

/-- A group that may be referred to: it is complete, and inside a look behind it was opened before
that. -/
def checkGroup (index : Nat) : Reading Unit := do
  let scan ← get
  match scan.widths[index]? with
  | some (some _) => pure ()
  | _ => refuse
  match scan.lookBehind with
  | some count => if count ≤ index then refuse
  | none => pure ()

/-- Reads an escape that starts with a digit other than zero: three octal digits are a character,
else the number is that of a group. -/
def digitEscape (flags : Flags) (c : Char) : Reading Node := do
  let reference (digits : List Char) : Reading Node := do
    let index := natOfDigits digits
    checkGroup index
    return .backref flags.rule index
  match ← takeChars isAsciiDigit 1 with
  | [d] =>
    if isOctal c && isOctal d then
      match ← takeChars isOctal 1 with
      | [e] =>
        let code := octal [c, d, e]
        if 0o377 < code then refuse
        return .one (.char flags.rule false code)
      | _ => reference [c, d]
    else reference [c, d]
  | _ => reference [c]

/-- Reads an escape outside of sets. -/
def escapeNode (flags : Flags) (c : Char) : Reading Node := do
  let literal (code : Nat) : Node := .one (.char flags.rule false code)
  match anchorEscape? flags.ascii c, classEscape? flags.ascii c, shortEscape? c, codeEscape? c with
  | some anchor, _, _, _ => return .anchor anchor
  | none, some item, _, _ => return .one (.set flags.rule false [item])
  | none, none, some code, _ => return literal code
  | none, none, none, some code => return literal (← code)
  | none, none, none, none =>
    if c = '0' then return literal (octal (c :: (← takeChars isOctal 2)))
    else if isAsciiDigit c then digitEscape flags c
    else return literal (← plainEscape c)

end Triage.Regex
