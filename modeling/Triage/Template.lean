import Triage.Json.Printer

/-!
# Templates

A template is text with placeholders, names in braces. It is cut into spans once; rendering puts the
value of a field in the place of each placeholder and leaves a placeholder visible whose field is
null or absent, so that a reader sees what is missing.
-/

namespace Triage

/-- A span of a template: text that stands for itself, or a placeholder by its name. -/
inductive Span where
  | literal (text : List Char)
  | placeholder (name : List Char)
  deriving DecidableEq, Repr

namespace Span

/-- The span as it stands in the template. -/
def raw : Span → List Char
  | literal text => text
  | placeholder name => '\x7b' :: name ++ ['\x7d']

/-- The value a record has for a placeholder; null counts as none. -/
def value? (values : Record) (name : List Char) : Option Json :=
  match values.get? (String.ofList name) with
  | none | some .null => none
  | some v => some v

/-- The text put in the place of a span. -/
def render (values : Record) : Span → List Char
  | literal text => text
  | placeholder name =>
    match value? values name with
    | some v => v.chatText.toList
    | none => (placeholder name).raw

end Span

namespace Template

/-- A character that may start a placeholder's name. -/
def isNameStart (c : Char) : Bool := Text.isAsciiLetter c || c == '_'

/-- A character of a placeholder's name. -/
def isNameChar (c : Char) : Bool := isNameStart c || Text.isAsciiDigit c

/-- The name of a placeholder at the start of a text. -/
def placeholder? : List Char → Option (List Char)
  | '\x7b' :: c :: rest =>
    if isNameStart c then
      let name := c :: rest.takeWhile isNameChar
      match rest.dropWhile isNameChar with
      | '\x7d' :: _ => some name
      | _ => none
    else none
  | _ => none

/-- Puts a character in front of spans. -/
def addChar (c : Char) : List Span → List Span
  | .literal text :: spans => .literal (c :: text) :: spans
  | spans => .literal [c] :: spans

/-- The spans of a text after `skip` characters. -/
def spansFrom : Nat → List Char → List Span
  | _, [] => []
  | skip + 1, _ :: rest => spansFrom skip rest
  | 0, c :: rest =>
    match placeholder? (c :: rest) with
    | some name => .placeholder name :: spansFrom (name.length + 1) rest
    | none => addChar c (spansFrom 0 rest)

/-- The spans of a template. -/
def spans (template : String) : List Span := spansFrom 0 template.toList

/-- The names of the placeholders in order. -/
def placeholders (template : String) : List String :=
  (spans template).filterMap fun
    | .placeholder name => some (String.ofList name)
    | .literal _ => none

/-- The template with its placeholders filled from a record. -/
def render (template : String) (values : Record) : String :=
  String.ofList ((spans template).flatMap (Span.render values))

/-- The placeholders that stay visible. -/
def unresolved (template : String) (values : Record) : List String :=
  (placeholders template).filter fun name => (Span.value? values name.toList).isNone

end Template

end Triage
