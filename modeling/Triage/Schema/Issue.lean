import Triage.Text.Quoted
import Triage.Json.Reader

/-!
# What is wrong with a document

A document that does not have the shape asked for is answered by all its issues, in the order of the
fields. An issue is a path into the document and a cause.
-/

namespace Triage

/-- A step of a path into a document. -/
inductive Step where
  | name (name : String)
  | index (index : Nat)
  deriving DecidableEq, Repr

/-- A rule of the library's own that a value breaks. -/
inductive Rule where
  | patternKind (kind : String)
  | malformedPattern (source : String)
  | flagConflict
  | countTooLong (digits : Nat)
  | unknownGroup (index : Int) (field source : String)
  | unknownLevel
  deriving DecidableEq, Repr

/-- Why a value is not what a field asks for. -/
inductive Cause where
  | missing
  | notText
  | emptyText
  | notList
  | notMap
  | notObject
  | notMember
  | notLiteral
  | notNumber
  | unreadableNumber
  | notWhole
  | unreadableWhole
  | fraction
  | notFinite
  | tooLarge
  | notTruth
  | unreadableTruth
  | notAbove
  | notAtLeast
  | notAtMost
  | rule (rule : Rule)
  deriving DecidableEq, Repr

/-- One thing wrong with a document. -/
structure Issue where
  path : List Step
  cause : Cause
  deriving DecidableEq, Repr

/-- The log levels by name, in the order in which a message lists them. -/
def levelNames : List String := ["DEBUG", "INFO", "WARNING", "ERROR", "CRITICAL"]

/-- The words for a broken rule. -/
def Rule.message : Rule → String
  | .patternKind kind => s!"unsupported pattern type '{kind}', expected one of ('regex',)"
  | .malformedPattern source => s!"invalid regex {Text.quoted source}"
  | .flagConflict => "ASCII and UNICODE flags are incompatible"
  | .countTooLong digits => Json.digitsMessage digits
  | .unknownGroup index field source =>
    s!"capture group {Text.ofInt index} for '{field}' does not exist in {Text.quoted source}"
  | .unknownLevel =>
    let names := Text.join ", " (levelNames.map Text.quoted)
    s!"log_level must be one of [{names}]"

/-- The headline over the issues of a document of the given kind. -/
def headline (kind : String) (issues : List Issue) : String :=
  let errors := if issues.length = 1 then "error" else "errors"
  s!"{Text.ofNat issues.length} validation {errors} for {kind}"

end Triage
