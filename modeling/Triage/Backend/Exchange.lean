import Triage.Backend.Url
import Triage.Json.Basic
import Triage.Decimal.Binary64
import Triage.Text.Utf8

/-!
# Exchanges with a model backend

A backend is asked by requests and answers, or fails to. What it answers may depend on everything it
was asked before; nothing else is assumed of it. What can go wrong on the way to an answer, and in
which words, is as in version 0.28 of httpx.
-/

namespace Triage

/-- A request: the address, and the document sent along if there is one. -/
structure Request where
  url : String
  body : Option Json

namespace Request

/-- The method of a request; one without a document only asks. -/
def method (r : Request) : String := if r.body.isSome then "POST" else "GET"

end Request

/-- What comes back. The transport names the kind of its failures. -/
inductive Reply where
  | answer (status : Nat) (body : String)
  | tardy (message : String)
  | broken (kind message : String)
  | crash (message : String)
  | silence

/-- A backend answers a request in view of those before it. -/
abbrev Backend := List Request → Request → Reply

/-- What no part of the library deals with. -/
inductive Breakdown where
  | url (fault : Url.Fault)
  | relativeUrl (url : String)
  | notFinite
  | unencodable (fault : Text.Utf8.EncodeFault)
  | crash (message : String)

/-- The message for a breakdown. -/
def Breakdown.message : Breakdown → String
  | .url fault => fault.message
  | .relativeUrl text => s!"unknown url type: {Text.quoted text}"
  | .notFinite => "Out of range float values are not JSON compliant"
  | .unencodable fault => fault.message
  | .crash words => words

/-- A time budget runs out at once where it is not positive, and otherwise only on a call that never
comes back. -/
def overruns (seconds : Binary64) (comesBack : Bool) : Bool := seconds.le .zero || !comesBack

end Triage
