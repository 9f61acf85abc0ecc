import Triage.Json.Basic

/-!
# What is logged along

While an alert is handled, every line that is logged carries its correlation id and, once it is
known, its type.
-/

namespace Triage

/-- What is logged along with the alert at hand; an empty text stands for nothing. -/
structure Context where
  correlationId : String
  alertType : String
  deriving DecidableEq, Repr

namespace Context

/-- Nothing is logged along. -/
def empty : Context := ⟨"", ""⟩

/-- The entries of a context as a document has them. -/
def fields (c : Context) : Record :=
  [("correlation_id", .string c.correlationId), ("alert_type", .string c.alertType)]

/-- An entry as it stands in a line. -/
def shown (s : String) : String := if s = "" then "N/A" else s

end Context

end Triage
