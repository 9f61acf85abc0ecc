import Triage.Files
import Triage.Extraction
import Triage.Text.Utf8
import Triage.Config.Basic
import Triage.Backend.Exchange

/-!
# Failures

What keeps a run from ending with an answer. A fault of the policies is always said aloud: a broken
policy must never look like a text that nobody recognises.
-/

namespace Triage

/-- What is wrong with the policies, with their file or with a record made by them. -/
inductive PolicyFault where
  /-- There is no policy file, neither a configured one nor one at the usual places. -/
  | noSource (standard : Path)
  | absent (path : Path)
  | isDirectory (path : Path)
  /-- The file is not JSON. -/
  | notJson (path : Path) (reason : String)
  /-- The document has no list of policies. -/
  | noList (path : Path)
  | invalid (label : String) (path : Path) (issues : List Issue)
  | duplicate (alertType : String) (path : Path)
  /-- A captured text is not the number that its field asks for. -/
  | capture (fault : Extraction.Fault)
  /-- What a policy has extracted is not an alert. -/
  | invalidRecord (alertType : String) (issues : List Issue)
  /-- What a model has completed is not an alert. -/
  | invalidCompletion (alertType : String) (issues : List Issue)
  deriving DecidableEq, Repr

namespace PolicyFault

/-- The message for a fault. -/
def message : PolicyFault → String
  | noSource standard =>
    s!"Policies file not found. Create {standard.text} " ++
      "or set the POLICIES_PATH environment variable."
  | absent path =>
    s!"Policies file not found at {path.text}. " ++
      "Create it or point POLICIES_PATH at your policies file."
  | isDirectory path =>
    s!"Cannot read policies file at {path.text}: [Errno 21] Is a directory: " ++
      Text.quoted path.text
  | notJson path reason => s!"Invalid JSON in policies file at {path.text}: {reason}"
  | noList path => s!"Policies file at {path.text} must contain a 'policies' array"
  | invalid label path issues =>
    s!"Invalid policy {label} in {path.text}: " ++ headline "Policy" issues
  | duplicate alertType path =>
    s!"Duplicate alert_type '{alertType}' in {path.text}; alert types must be unique"
  | capture fault => fault.message
  | invalidRecord alertType issues =>
    s!"Policy '{alertType}' produced an invalid record; " ++
      "check its extraction_defaults and patterns: " ++ headline "ParsedAlert" issues
  | invalidCompletion alertType issues =>
    s!"Merging model fields into policy '{alertType}' defaults produced an invalid record; " ++
      "check its extraction_defaults: " ++ headline "ParsedAlert" issues

/-- The issues behind a fault. -/
def issues : PolicyFault → List Issue
  | invalid _ _ issues | invalidRecord _ issues | invalidCompletion _ issues => issues
  | _ => []

end PolicyFault

/-- What keeps a run from ending with an answer. -/
inductive Failure where
  | policies (fault : PolicyFault)
  /-- The configuration is invalid. -/
  | settings (invalid : Invalid)
  /-- A file is not UTF-8. -/
  | undecodable (fault : Text.Utf8.Fault)
  /-- A whole number has too many digits. -/
  | digits (count : Nat)
  /-- A regular expression is refused for another reason than its form. -/
  | expression (fault : Regex.Fault)
  /-- A path starts at a home directory that nobody knows. -/
  | homeless
  | breakdown (breakdown : Breakdown)

/-- The message for a fault of an expression. -/
def Regex.Fault.message : Regex.Fault → String
  | .malformed => "the expression is malformed"
  | .countTooLarge => "the repetition number is too large"
  | .countTooLong digits => Json.digitsMessage digits
  | .flagConflict => "ASCII and UNICODE flags are incompatible"

namespace Failure

/-- The message for a failure. -/
def message : Failure → String
  | policies fault => fault.message
  | settings invalid => invalid.message
  | undecodable fault => fault.message
  | digits count => Json.digitsMessage count
  | expression fault => fault.message
  | homeless => "Could not determine home directory."
  | breakdown b => b.message

end Failure

/-- Accepts a checked value, or fails by what its issues amount to. -/
def Checked.orFail {α : Type} (c : Checked α) (fault : List Issue → PolicyFault) :
    Except Failure α :=
  match c with
  | .valid a => .ok a
  | .invalid issues => .error (.policies (fault issues))
  | .countTooLarge => .error (.expression .countTooLarge)

end Triage
