import Triage.Backend.Exchange
import Triage.Decimal.Notation
import Triage.Text.Case

/-!
# Errors of a backend

Why a call of the backend gave nothing, and the category into which an error falls. The category of
an error that has none of its own is read off its kind and its message.
-/

namespace Triage

/-- Why a call of the backend gave nothing. -/
inductive BackendError where
  /-- The time budget ran out. -/
  | overdue (operation : String) (seconds : String)
  /-- The transport gave up waiting. -/
  | timedOut (operation message : String)
  | unreachable (reason : String)
  | catalogueStatus (status : Nat)
  | catalogueUnreadable (reason : String)
  | catalogueShape (text : String)
  | transport (model reason : String)
  | chatStatus (status : Nat) (detail : String)
  | chatUnreadable (reason : String)
  | notChat (kind : String)
  | emptyReply
  /-- A failure in other words, of a category of its own. -/
  | stated (message category : String)
  deriving DecidableEq, Repr

namespace Overload

/-- What a saturated backend says. -/
def marks : List String :=
  ["eof", "overloaded", "server busy", "too many requests", "unavailable"]

/-- The statuses of a saturated backend. -/
def statuses : List Int := [429, 503]

/-- The text is that of a saturated backend. -/
def inText (body : String) : Bool :=
  let body := Text.lower body
  marks.any (Text.contains body)

/-- The answer is that of a saturated backend. -/
def answers (status : Option Int) (body : String) : Bool :=
  (match status with | some n => statuses.contains n | none => false) || inText body

end Overload

namespace BackendError

/-- The message for an error. -/
def message : BackendError → String
  | overdue operation seconds => s!"{operation} timed out after {seconds}s"
  | timedOut operation message => s!"{operation} timed out: {message}"
  | unreachable reason => reason
  | catalogueStatus status => s!"Ollama returned {Text.ofNat status} for /api/tags"
  | catalogueUnreadable reason => s!"Ollama returned a non-JSON catalogue: {reason}"
  | catalogueShape text => s!"Unexpected /api/tags catalogue shape: {Text.takeFirst 200 text}"
  | transport model reason => s!"Transport error calling {model}: {reason}"
  | chatStatus status detail => s!"Ollama API error: {Text.ofNat status} - {detail}"
  | chatUnreadable reason => s!"Ollama returned a non-JSON body: {reason}"
  | notChat kind => s!"Ollama returned a {kind} instead of a chat object"
  | emptyReply => "Empty response from Ollama"
  | stated message _ => message

/-- The error is that time ran out. -/
def isTimeout : BackendError → Bool
  | overdue .. | timedOut .. => true
  | _ => false

/-- The category of an error. -/
def category : BackendError → String
  | overdue .. | timedOut .. => "timeout"
  | unreachable _ => "network"
  | catalogueStatus _ => "http"
  | catalogueUnreadable _ | catalogueShape _ => "validation"
  | transport _ reason => if Overload.inText reason then "overload" else "network"
  | chatStatus status detail =>
    if Overload.answers (some status) detail then "overload" else "http"
  | chatUnreadable _ | notChat _ | emptyReply => "validation"
  | stated _ category => category

/-- The status that an error carries. -/
def status? : BackendError → Option Nat
  | catalogueStatus status | chatStatus status _ => some status
  | _ => none

end BackendError

/-- The category of an error by the name of its kind and its message. -/
def categoryOf (kind message : String) : String :=
  let kind := Text.lower kind
  let message := Text.lower message
  let kindHas (words : List String) : Bool := words.any (Text.contains kind)
  let messageHas (words : List String) : Bool := words.any (Text.contains message)
  if kindHas ["timeout"] || messageHas ["timed out"] then "timeout"
  else if kindHas ["connect", "network", "socket", "transport"] ||
      messageHas ["connection refused", "network unreachable"] then "network"
  else if messageHas Overload.marks then "overload"
  else if kindHas ["validation", "decode"] || messageHas ["invalid"] then "validation"
  else "unknown"

end Triage
