import Triage.Json.Reader
import Triage.Text.Quoted
import Triage.Text.Case

/-!
# The object in a model's reply

Models wrap the object they were asked for in fences and prose. The fences are taken off, the first
object is cut out by counting braces outside of strings, and what was cut out is read as JSON.
-/

namespace Triage.Reply

open Text

/-- The fence before and after a block. -/
def fence : List Char := ['`', '`', '`']

/-- Drops a fence in front with the letters of a language and space after it. -/
def dropOpening (s : List Char) : List Char :=
  if fence.isPrefixOf s then ((s.drop 3).dropWhile isAsciiLetter).dropWhile isSpace else s

/-- Drops a fence at the end with the space before it. -/
def dropClosing (s : List Char) : List Char :=
  if fence.isSuffixOf s then dropEndWhile isSpace (s.take (s.length - 3)) else s

/-- A reply without space and fences around it. -/
def stripFences (content : List Char) : List Char :=
  let content := trimChars content
  if fence.isPrefixOf content then dropClosing (dropOpening content) else content

/-- The text up to the brace that closes the outermost object: `depth` objects are open, and the
text may stand inside a string, where a backslash has just been read. -/
def closing (depth : Nat) (inString escaped : Bool) : List Char → Option (List Char)
  | [] => none
  | c :: rest =>
    if escaped then (closing depth inString false rest).map (c :: ·)
    else if c = '\\' then (closing depth inString inString rest).map (c :: ·)
    else if c = '"' then (closing depth (!inString) false rest).map (c :: ·)
    else if inString then (closing depth true false rest).map (c :: ·)
    else if c = '\x7b' then (closing (depth + 1) false false rest).map (c :: ·)
    else if c = '\x7d' then
      if depth ≤ 1 then some [c] else (closing (depth - 1) false false rest).map (c :: ·)
    else (closing depth false false rest).map (c :: ·)

/-- The first object of a text, from its opening brace to the one that closes it. -/
def firstObject (s : List Char) : Option (List Char) :=
  closing 0 false false (s.dropWhile (· ≠ '\x7b'))

/-- Why a reply holds no object. -/
inductive Fault where
  | noObject (cleaned : List Char)
  | unreadable (span : List Char) (fault : Json.ReadFault)
  | otherValue
  deriving DecidableEq, Repr

/-- The message for a fault. -/
def Fault.message : Fault → String
  | .noObject cleaned =>
    s!"No JSON object in model reply: {quoted (String.ofList (cleaned.take 120))}"
  | .unreadable span fault => fault.message span
  | .otherValue => "Model reply JSON is not an object"

/-- The object of a reply. -/
def object (content : String) : Except Fault Record :=
  let cleaned := stripFences content.toList
  match firstObject cleaned with
  | none => .error (.noObject cleaned)
  | some span =>
    match Json.parseChars span with
    | .error fault => .error (.unreadable span fault)
    | .ok (.object fields) => .ok fields
    | .ok _ => .error .otherValue

/-- The words that some models give instead of null. -/
def nullWords : List String := ["null", "none"]

/-- The payload says that no alert type fits. -/
def saysNoAlert (payload : Record) : Bool :=
  match payload.get? "alert_type" with
  | some .null => true
  | some (.string s) => lower (trim s) ∈ nullWords
  | _ => false

end Triage.Reply
