import Triage.Schema.Field
import Triage.Regex.Reader

/-!
# Patterns of a policy

A pattern is a regular expression, read without regard to case, with a map from field names to
groups. It carries the expression in its read form: a pattern that exists can be searched with, and
every group it maps a field to exists in it.
-/

namespace Triage

/-- An extraction pattern. -/
structure PatternSpec where
  /-- The expression as written. -/
  source : String
  /-- Fields taken from groups by number; zero stands for the whole match. -/
  captures : List (String × Nat)
  /-- The expression as read. -/
  expression : Regex.Pattern
  compiles : Regex.compile true source = .ok expression
  captures_le : ∀ c ∈ captures, c.2 ≤ expression.groups

namespace PatternSpec

/-- The one kind of pattern. -/
def kind : String := "regex"

/-- Checks the kind of a pattern. -/
def checkKind (v : Json) : Checked String :=
  (Schema.text v).andThen fun s =>
    if s = kind then .valid s else .fault (.rule (.patternKind s))

/-- The group of a field, if an expression with `groups` groups has it. -/
def groupOf? (groups : Nat) (index : Int) : Option Nat :=
  if 0 ≤ index ∧ index ≤ groups then some index.toNat else none

/-- The first field that is mapped to a group beyond the last one, or below zero. -/
def firstUnknown? (groups : Nat) (captures : List (String × Int)) : Option (String × Int) :=
  captures.find? fun c => (groupOf? groups c.2).isNone

/-- The fields with their groups as plain numbers. -/
def known (groups : Nat) (captures : List (String × Int)) : List (String × Nat) :=
  captures.filterMap fun c => (groupOf? groups c.2).map (Prod.mk c.1)

theorem known_le {groups : Nat} {captures : List (String × Int)} :
    ∀ c ∈ known groups captures, c.2 ≤ groups := by
  intro c hc
  obtain ⟨d, _, hd⟩ := List.mem_filterMap.mp hc
  obtain ⟨n, hn, rfl⟩ := Option.map_eq_some_iff.mp hd
  unfold groupOf? at hn
  split at hn
  · cases hn
    simp only
    omega
  · cases hn

/-- Reads the expression of a pattern and checks the groups of its fields. -/
def ofParts (source : String) (captures : List (String × Int)) : Checked PatternSpec :=
  match h : Regex.compile true source with
  | .error .malformed => .fault (.rule (.malformedPattern source))
  | .error .countTooLarge => .countTooLarge
  | .error (.countTooLong digits) => .fault (.rule (.countTooLong digits))
  | .error .flagConflict => .fault (.rule .flagConflict)
  | .ok expression =>
    match firstUnknown? expression.groups captures with
    | some (field, index) => .fault (.rule (.unknownGroup index field source))
    | none => .valid ⟨source, known expression.groups captures, expression, h, known_le⟩

/-- Checks the fields of a pattern; the expression is read once all of them are right. -/
def check : Json → Checked PatternSpec := Schema.object fun r =>
  let parts := (fun (_ : String) (source : { s : String // s ≠ "" }) captures =>
      (source.val, captures))
    <$> Schema.withDefault r "type" kind checkKind
    <*> Schema.required r "pattern" Schema.nonEmptyText
    <*> Schema.withDefault r "capture_groups" [] (Schema.mapOf Schema.whole)
  parts.andThen fun (source, captures) => ofParts source captures

/-- The fields of a pattern as a document has them. -/
def fields (p : PatternSpec) : Record := [
  ("type", .string kind),
  ("pattern", .string p.source),
  ("capture_groups", .object (p.captures.map fun c => (c.1, .int c.2)))]

end PatternSpec

end Triage
