import Triage.Decimal.Notation
import Triage.Json.Printer

/-!
# Metrics

What happens is recorded as a list of events; the counts are read off that list. The export writes
them in the text format of Prometheus: a family of samples after another, each with its help and its
type, the samples of a family in the order in which their labels were first seen.
-/

namespace Triage

/-- Something that is counted. -/
inductive Event where
  | parse (method outcome : String)
  | attempt (model status : String) (seconds : Binary64)
  | decision (state : String)
  | renderFailure (tool : Option String)
  deriving DecidableEq, Repr

/-- What has happened, in order. -/
abbrev Journal := List Event

namespace Metrics

/-- The labels of a sample, by name and value. -/
abbrev Labels := List (String × String)

/-- A family of samples counts the events that it has labels for. -/
structure Counter where
  name : String
  help : String
  labels : Event → Option Labels

/-- The ways in which alerts were interpreted. -/
def parseResults : Counter where
  name := "parse_results_total"
  help := "Parse attempts by method and outcome"
  labels
    | .parse method outcome => some [("method", method), ("outcome", outcome)]
    | _ => none

/-- The ways in which attempts with models ended. -/
def modelAttempts : Counter where
  name := "model_attempts_total"
  help := "Model cascade attempts by model and status"
  labels
    | .attempt model status _ => some [("model", model), ("status", status)]
    | _ => none

/-- The decisions made. -/
def decisions : Counter where
  name := "decisions_total"
  help := "Decisions produced by the decision engine"
  labels
    | .decision state => some [("decision", state)]
    | _ => none

/-- The tools whose options could not be rendered; an option without a tool counts as a template. -/
def renderFailures : Counter where
  name := "action_render_failures_total"
  help := "Action options that failed to render"
  labels
    | .renderFailure tool =>
      some [("tool", match tool with | none | some "" => "template" | some tool => tool)]
    | _ => none

/-- The values in the order in which they first appear. -/
def firstSeen {α : Type} [BEq α] (values : List α) : List α := values.eraseDups

/-- The samples of a family: labels with their counts. -/
def samples (c : Counter) (journal : Journal) : List (Labels × Nat) :=
  let seen := journal.filterMap c.labels
  (firstSeen seen).map fun labels => (labels, seen.count labels)

/-- A number in an export: the words for the infinities are capital, and a positive number of seven
or more digits before the point has a power of ten instead. -/
def numberText (x : Binary64) : String :=
  match x with
  | .nan => "NaN"
  | .infinite negative => if negative then "-Inf" else "+Inf"
  | .finite negative _ _ =>
    let s := x.text.toList
    let whole := s.takeWhile (· ≠ '.')
    if !negative && '.' ∈ s && 6 < whole.length then
      let digits := whole.drop 1 ++ s.drop (whole.length + 1)
      let mantissa := whole.take 1 ++ '.' :: digits
      let mantissa := Text.dropEndWhile (fun c => c == '0' || c == '.') mantissa
      String.ofList mantissa ++ "e+0" ++ Text.ofNat (whole.length - 1)
    else x.text

/-- A label's value inside its quotes. -/
def escapeChar (c : Char) : List Char :=
  if c = '\\' then ['\\', '\\'] else if c = '\n' then ['\\', 'n']
  else if c = '"' then ['\\', '"'] else [c]

/-- A label with its value. -/
def labelText (label : String × String) : String :=
  label.1 ++ "=\"" ++ String.ofList (label.2.toList.flatMap escapeChar) ++ "\""

/-- A line of an export. -/
def sampleLine (name : String) (labels : Labels) (value : Binary64) : String :=
  name ++ "\x7b" ++ Text.join "," (labels.map labelText) ++ "\x7d " ++ numberText value

/-- A count as a number. -/
def countNumber (n : Nat) : Binary64 := Binary64.ofInt n

/-- The lines of a family's samples. -/
def counterLines (scope : String) (c : Counter) (journal : Journal) : List String :=
  (samples c journal).map fun s => sampleLine (scope ++ "_" ++ c.name) s.1 (countNumber s.2)

/-- The lines above a family. -/
def head (scope name help type : String) : List String :=
  ["# HELP " ++ scope ++ "_" ++ name ++ " " ++ help,
    "# TYPE " ++ scope ++ "_" ++ name ++ " " ++ type]

/-- A family of counts with the lines above it. -/
def counterFamily (scope : String) (journal : Journal) (c : Counter) : List String :=
  head scope c.name c.help "counter" ++ counterLines scope c journal

/-- The upper bounds of the classes of call times. -/
def bounds : List Binary64 :=
  [(5, -3), (10, -3), (25, -3), (50, -3), (75, -3), (1, -1), (25, -2), (5, -1), (75, -2), (1, 0),
    (25, -1), (5, 0), (75, -1), (10, 0)].map fun (n, e) => Binary64.ofDecimal false n e

/-- The times of the calls of a model. -/
def callTimes (model : String) (journal : Journal) : List Binary64 :=
  journal.filterMap fun
    | .attempt m _ seconds => if m = model then some seconds else none
    | _ => none

/-- How many times fall at or under a bound. -/
def countWithin (times : List Binary64) (bound : Binary64) : Nat :=
  times.countP fun t => t.le bound

/-- The lines for the call times of one model. -/
def timeLines (name : String) (journal : Journal) (model : String) : List String :=
  let times := callTimes model journal
  let total := countNumber (countWithin times (.infinite false))
  ((bounds ++ [Binary64.infinite false]).map fun bound =>
    sampleLine (name ++ "_bucket") [("le", numberText bound), ("model", model)]
      (countNumber (countWithin times bound))) ++
  [sampleLine (name ++ "_count") [("model", model)] total,
    sampleLine (name ++ "_sum") [("model", model)] (times.foldl Binary64.add .zero)]

/-- The family of call times. -/
def timeFamily (scope : String) (journal : Journal) : List String :=
  let models := firstSeen (journal.filterMap fun
    | .attempt model _ _ => some model
    | _ => none)
  head scope "model_call_seconds" "Latency of a single model chat call" "histogram" ++
    models.flatMap (timeLines (scope ++ "_model_call_seconds") journal)

/-- The families that count events, in order; the call times stand after the second. -/
def counters : List Counter := [parseResults, modelAttempts, decisions, renderFailures]

/-- The lines of an export under a common name. -/
def exportLines (scope : String) (journal : Journal) : List String :=
  counterFamily scope journal parseResults ++ counterFamily scope journal modelAttempts ++
    timeFamily scope journal ++ counterFamily scope journal decisions ++
    counterFamily scope journal renderFailures

/-- The export of a journal. -/
def exportText (scope : String) (journal : Journal) : String :=
  String.join ((exportLines scope journal).map (· ++ "\n"))

/-- The name under which metrics are exported. -/
def scope : String := "alertops"

/-- The counts of a journal, one sample a line. -/
def countLines (journal : Journal) : List String :=
  counters.flatMap fun c => counterLines scope c journal

end Metrics

end Triage
