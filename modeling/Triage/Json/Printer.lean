import Triage.Json.Basic
import Triage.Decimal.Notation
import Triage.Text.Point
import Triage.Text.Quoted

/-!
# Writing JSON values

Three layouts of JSON text: on one line without blanks, over several lines in ASCII, over several
lines for reports. Beside them stands the form that values take inside messages, which is not JSON.
-/

namespace Triage.Json

open Text

/-- How values are laid out. -/
structure Layout where
  /-- One member or element a line, indented by two blanks a level. -/
  spread : Bool
  /-- Characters beyond visible ASCII are escaped. -/
  asciiOnly : Bool
  /-- The text of a number with a fraction. -/
  number : Binary64 → String

/-- A number as JSON text extended by words for the infinities and for no number. -/
def extendedNumber : Binary64 → String
  | .nan => "NaN"
  | .infinite negative => if negative then "-Infinity" else "Infinity"
  | x => x.text

/-- A number in a report; one that is not finite is null. -/
def reportNumber (x : Binary64) : String := (DecimalNotation.report.finite? x).getD "null"

/-- One line, no blanks. -/
def Layout.compact : Layout := ⟨false, false, extendedNumber⟩

/-- Several lines of ASCII. -/
def Layout.ascii : Layout := ⟨true, true, extendedNumber⟩

/-- Several lines for a report. -/
def Layout.report : Layout := ⟨true, false, reportNumber⟩

/-- A character by its code in base sixteen; beyond the first plane by a pair of codes. -/
def codeEscape (n : Nat) : String :=
  if n < 0x10000 then "\\u" ++ hex 4 n
  else
    let n := n - 0x10000
    "\\u" ++ hex 4 (0xd800 + n / 1024) ++ "\\u" ++ hex 4 (0xdc00 + n % 1024)

/-- A character inside a string. -/
def escapeChar (asciiOnly : Bool) (c : Char) : String :=
  match c with
  | '"' => "\\\""
  | '\\' => "\\\\"
  | '\n' => "\\n"
  | '\r' => "\\r"
  | '\t' => "\\t"
  | c =>
    if c.toNat = 8 then "\\b"
    else if c.toNat = 12 then "\\f"
    else if c.toNat < 32 ∨ (asciiOnly ∧ 126 < c.toNat) then codeEscape c.toNat
    else c.toString

/-- A code point inside a string where characters beyond ASCII stand for themselves; so does half of a
pair. -/
def escapePoint : Point → List Point
  | .char c => points (escapeChar false c)
  | .half place => [.half place]

/-- A string with its quotes. -/
def renderString (layout : Layout) (s : String) : String :=
  s.toList.foldl (fun text c => text ++ escapeChar layout.asciiOnly c) "\"" ++ "\""

/-- A line break and the indent of a level, in a spread layout. -/
def Layout.newline (layout : Layout) (level : Nat) : String :=
  if layout.spread then "\n" ++ String.ofList (List.replicate (2 * level) ' ') else ""

/-- Between a name and its value. -/
def Layout.colon (layout : Layout) : String := if layout.spread then ": " else ":"

mutual

/-- A value whose closing bracket stands at `level`. -/
def render (layout : Layout) (level : Nat) : Json → String
  | .null => "null"
  | .bool b => if b then "true" else "false"
  | .int n => ofInt n
  | .float x => layout.number x
  | .string s => renderString layout s
  | .array [] => "[]"
  | .array (v :: items) =>
    "[" ++ layout.newline (level + 1) ++ render layout (level + 1) v ++
      renderItems layout (level + 1) items ++ layout.newline level ++ "]"
  | .object [] => "\x7b\x7d"
  | .object ((name, v) :: fields) =>
    "\x7b" ++ layout.newline (level + 1) ++ renderString layout name ++ layout.colon ++
      render layout (level + 1) v ++ renderFields layout (level + 1) fields ++
      layout.newline level ++ "\x7d"

/-- The elements after the first. -/
def renderItems (layout : Layout) (level : Nat) : List Json → String
  | [] => ""
  | v :: items =>
    "," ++ layout.newline level ++ render layout level v ++ renderItems layout level items

/-- The members after the first. -/
def renderFields (layout : Layout) (level : Nat) : List (String × Json) → String
  | [] => ""
  | (name, v) :: fields =>
    "," ++ layout.newline level ++ renderString layout name ++ layout.colon ++
      render layout level v ++ renderFields layout level fields

end

/-- A value as text in the given layout. -/
def write (layout : Layout) (v : Json) : String := render layout 0 v

mutual

/-- A value inside another one in a message: texts stand in quotes. -/
def inner : Json → String
  | .null => "None"
  | .bool b => if b then "True" else "False"
  | .int n => ofInt n
  | .float x => x.text
  | .string s => quoted s
  | .array [] => "[]"
  | .array (v :: items) => "[" ++ inner v ++ innerItems items ++ "]"
  | .object [] => "\x7b\x7d"
  | .object ((name, v) :: fields) =>
    "\x7b" ++ quoted name ++ ": " ++ inner v ++ innerFields fields ++ "\x7d"

/-- The elements after the first. -/
def innerItems : List Json → String
  | [] => ""
  | v :: items => ", " ++ inner v ++ innerItems items

/-- The members after the first. -/
def innerFields : List (String × Json) → String
  | [] => ""
  | (name, v) :: fields => ", " ++ quoted name ++ ": " ++ inner v ++ innerFields fields

end

/-- A value in a message: a text stands for itself. -/
def display : Json → String
  | .string s => s
  | v => inner v

/-- A value the way operators read it in chat: a number that is whole has no fraction, truth
values are small, containers are JSON on one line. -/
def chatText : Json → String
  | .bool b => if b then "true" else "false"
  | .float x =>
    match x.toInt? with
    | some n => ofInt n
    | none => x.text
  | .array items => write .compact (.array items)
  | .object fields => write .compact (.object fields)
  | v => display v

end Triage.Json
