import Triage.Failure
import Triage.Policy.Basic
import Triage.Json.Printer

/-!
# Policies in a document

A document lists its policies under one name. It is accepted as a whole or not at all: the first
policy that is invalid, or that has the alert type of an earlier one, is a fault of the document.
-/

namespace Triage.Policies

/-- What a policy that cannot be accepted is called: the value of its alert type as given, else its
number. -/
def label (index : Nat) : Json → String
  | .object fields =>
    match Record.get? fields "alert_type" with
    | some v => v.display
    | none => "#" ++ Text.ofNat index
  | _ => "#" ++ Text.ofNat index

/-- Accepts the policies of a list in order; `seen` are the alert types of the ones before. -/
def ofList (path : Path) : Nat → List String → List Json → Except Failure (List Policy)
  | _, _, [] => .ok []
  | index, seen, v :: rest => do
    let policy ← (Policy.check v).orFail (.invalid (label index v) path)
    if policy.alertType ∈ seen then throw (.policies (.duplicate policy.alertType path))
    return policy :: (← ofList path (index + 1) (policy.alertType :: seen) rest)

/-- The policies of a document. -/
def ofDocument (path : Path) : Json → Except Failure (List Policy)
  | .object fields =>
    match Record.get? fields "policies" with
    | some (.array items) => ofList path 0 [] items
    | _ => .error (.policies (.noList path))
  | _ => .error (.policies (.noList path))

/-- The document that a text holds. -/
def documentOfText (path : Path) (s : List Char) : Except Failure Json :=
  match Json.parseChars s with
  | .ok v => .ok v
  | .error (.digits count) => .error (.digits count)
  | .error fault => .error (.policies (.notJson path (fault.message s)))

/-- The policies of a file by its bytes. -/
def ofBytes (path : Path) (bytes : List UInt8) : Except Failure (List Policy) := do
  let s ← (Text.Utf8.decode bytes).mapError Failure.undecodable
  ofDocument path (← documentOfText path (Text.unifyNewlines s))

/-- The policies of the file under a path. -/
def ofFile (files : Files) (path : Path) : Except Failure (List Policy) :=
  match files.get? path with
  | none => .error (.policies (.absent path))
  | some .directory => .error (.policies (.isDirectory path))
  | some (.file bytes) => ofBytes path bytes

end Triage.Policies
