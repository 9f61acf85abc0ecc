import Triage.Alert
import Triage.Keyword

/-!
# Extraction

What a pattern finds in a text becomes the fields of an alert: first the named groups, then the
groups mapped to fields, a group that took no part in the match giving nothing. A field whose name
speaks of a percentage, a threshold or a value is a number. The fields found are laid on the
policy's defaults, and what is required and still missing gets a fallback.
-/

namespace Triage

namespace Extraction

/-- The parts of a name that make its field a number. -/
def numericMarks : List String := ["percent", "threshold", "value"]

/-- The field holds a number. -/
def isNumeric (name : String) : Bool := numericMarks.any (Text.contains name)

/-- A captured text that is no number though its field asks for one. -/
structure Fault where
  name : String
  raw : String
  deriving DecidableEq, Repr

/-- The message for a fault. -/
def Fault.message (f : Fault) : String :=
  s!"Captured value {Text.quoted f.raw} for numeric field '{f.name}' is not a number; " ++
    "fix the pattern's capture group"

/-- A captured text as the value of a field; commas in a number do not count. -/
def coerce (name raw : String) : Except Fault Json :=
  if isNumeric name then
    match Numeral.captured? (String.ofList (raw.toList.filter (· ≠ ','))) with
    | some x => .ok (.float x)
    | none => .error ⟨name, raw⟩
  else .ok (.string raw)

/-- Lays the captured fields on a record, in order. -/
def collect (capture : Nat → Option String) : List (String × Nat) → Record → Except Fault Record
  | [], r => .ok r
  | (name, index) :: rest, r =>
    match capture index with
    | none => collect capture rest r
    | some raw => do collect capture rest (r.set name (← coerce name raw))

/-- The fields that a pattern extracts from a text, if it is found there. -/
def apply (p : PatternSpec) (text : String) : Except Fault (Option Record) :=
  match p.expression.search? text with
  | none => .ok none
  | some m => do
    let named ← collect (m.group? text) p.expression.names []
    return some (← collect (m.group? text) p.captures named)

/-- The confidence in what a pattern extracts. -/
def confidence : Binary64 := Binary64.ofDecimal false 9 (-1)

/-- What a required field holds when nothing else says so. -/
def fallbacks : Record := [
  ("project_id", .null), ("instance_name", .null), ("threshold_percent", .null),
  ("value_percent", .null), ("metric_labels", .object []), ("missing_fields", .array []),
  ("confidence", .float confidence)]

/-- Gives the fields of `fallbacks` that are null or absent their fallback. -/
def fill (fallbacks r : Record) : Record :=
  fallbacks.foldl
    (fun r field => if (r.getD field.1).isNull then r.set field.1 field.2 else r) r

/-- The record of an alert: the policy's defaults, on them the extracted fields, then the
fallbacks. The type is the policy's unless it has been given. -/
def record (policy : Policy) (extracted : Record) : Record :=
  let r := fill fallbacks (policy.extractionDefaults.overlay extracted)
  (r.setDefault "alert_type" (.string policy.alertType)).set "parse_method"
    (.string ParseMethod.policy.word)

end Extraction

end Triage
