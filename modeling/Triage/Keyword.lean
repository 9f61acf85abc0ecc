import Triage.Regex.Matcher
import Triage.Regex.Reader
import Triage.Policy.Basic

/-!
# Keywords

A keyword occurs in a text where its characters stand, whatever their case, between two word
boundaries. The search is that of the expression that stands for the keyword between boundaries, so
no character of a keyword has a meaning of its own.
-/

namespace Triage

namespace Keyword

/-- The expression of a keyword. -/
def expression (keyword : String) : String :=
  "\\b" ++ String.ofList (Regex.escape keyword.toList) ++ "\\b"

/-- The keyword occurs in the text. -/
def occurs (text keyword : String) : Bool :=
  match Regex.compile true (expression keyword) with
  | .ok pattern => (pattern.search? text).isSome
  | .error _ => false

/-- One of the keywords occurs in the text. -/
def anyOccurs (text : String) (keywords : List String) : Bool := keywords.any (occurs text)

end Keyword

/-- The guard lets the text pass: a required keyword occurs, if any is required, and no excluded
one. -/
def Guard.allows (g : Guard) (text : String) : Bool :=
  (g.requireAny.isEmpty || Keyword.anyOccurs text g.requireAny) &&
    !Keyword.anyOccurs text g.excludeAny

/-- The guard of the policy, if there is one, lets the text pass. -/
def Policy.admits (p : Policy) (text : String) : Bool :=
  match p.guard with
  | some g => g.allows text
  | none => true

end Triage
