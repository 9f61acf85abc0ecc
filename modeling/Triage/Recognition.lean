import Triage.Failure

/-!
# Recognising an alert by the policies

The first policy that fits a text decides: one that has patterns, whose guard lets the text pass and
one of whose patterns is found. What the first such pattern captures makes up the alert. That the
record so made is no alert is a fault of the policy and not a text that nobody recognises.
-/

namespace Triage

/-- An alert and the policy that it was recognised by. -/
structure Recognition where
  alert : Alert
  policy : Policy

namespace Recognition

/-- The fields captured by the first pattern that is found in a text. -/
def firstCapture (text : String) : List PatternSpec → Except Extraction.Fault (Option Record)
  | [] => .ok none
  | pattern :: rest => do
    match ← Extraction.apply pattern text with
    | some captured => return some captured
    | none => firstCapture text rest

/-- The fields that a policy captures in a text, if the policy fits it. -/
def capture (policy : Policy) (text : String) : Except Extraction.Fault (Option Record) :=
  if policy.admits text then firstCapture text policy.patterns else .ok none

/-- The alert that a policy makes of captured fields. -/
def alertOf (policy : Policy) (captured : Record) : Except Failure Alert :=
  (Alert.check (.object (Extraction.record policy captured))).orFail
    (.invalidRecord policy.alertType)

/-- Recognises a text by the first policy that fits it. -/
def ofText (text : String) : List Policy → Except Failure (Option Recognition)
  | [] => .ok none
  | policy :: rest => do
    match ← (capture policy text).mapError fun fault => Failure.policies (.capture fault) with
    | some captured => return some ⟨← alertOf policy captured, policy⟩
    | none => ofText text rest

end Recognition

end Triage
