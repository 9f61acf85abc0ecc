import Triage.Session

/-!
# The policies held

The policies are read from their file when they are first asked for. They are replaced as a whole,
and only by a build that succeeds; nothing else changes them, whatever becomes of the file.
-/

namespace Triage.Store

/-- The policy file that is asked for, here or in the configuration. -/
def wanted (override : Option String) : Run (Option String) := do
  match override.filter (· ≠ "") with
  | some path => return some path
  | none => return (← Run.config).policiesPath.filter (· ≠ "")

/-- The policy file at one of the usual places. -/
def usual (place : Surroundings) : Except Failure Path :=
  if (place.files.get? place.standard).isSome then .ok place.standard
  else if (place.files.get? place.legacy).isSome then .ok place.legacy
  else .error (.policies (.noSource place.standard))

/-- The policy file: the one asked for, else the one at a usual place. -/
def locate (override : Option String) : Run Path := do
  match ← wanted override with
  | some path =>
    let place := (← get).place
    return Path.resolve place.directory (← place.expand path)
  | none => usual (← get).place

/-- Reads the policies from their file and holds them from now on. -/
def reload : Run (List Policy) := do
  let path ← locate (← get).store.override
  let policies ← Policies.ofFile (← get).place.files path
  modify fun s => { s with store := { s.store with held := some (path, policies) } }
  return policies

/-- The policies held; the first time they are asked for, they are read. -/
def load : Run (List Policy) := do
  match (← get).store.held with
  | some (_, policies) => return policies
  | none => reload

/-- The policy of an alert type. Without a type nothing is looked up. -/
def find? (alertType : Option String) : Run (Option Policy) := do
  match alertType.filter (· ≠ "") with
  | none => return none
  | some alertType => return (← load).find? fun p => p.alertType = alertType

end Triage.Store
