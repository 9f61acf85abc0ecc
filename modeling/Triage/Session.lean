import Triage.Policy.Document
import Triage.Backend.Client
import Triage.Metrics
import Triage.Log.Context

/-!
# Sessions

A session is what stays between the alerts of one program run: the surroundings as they are found,
the configuration in force, the policies held, the client, and a record of what has happened. A step
changes the session and ends with a value or a failure; a failure keeps what the step has changed
before it.

The configuration is built from the surroundings when it is first asked for and stays in force until
it is built again. A build that fails leaves it as it was.
-/

namespace Triage

/-- What a program finds around it. -/
structure Surroundings where
  /-- The directory from which paths are read. -/
  directory : Path
  /-- Where the policy file is if no other place is configured. -/
  standard : Path
  /-- Where it used to be. -/
  legacy : Path
  files : Files
  env : Environment
  /-- The home directories of users by their names. Without a name stands that of whoever runs the
  program, which the variable `HOME` gives where it is set. -/
  homes : List (String × String) := []

namespace Surroundings

/-- The home directory that a tilde and the name after it stand for. -/
def home? (s : Surroundings) (user : String) : Option String :=
  let home := (s.homes.lookup user).map Text.trimEndSlashes
  (home.map fun h => if h = "" then "/" else h).filter fun h => !Text.startsWith h "~"

/-- A path as written, with the home directory in the place of a tilde at its front. -/
def expand (s : Surroundings) (path : String) : Except Failure String :=
  if Text.startsWith path "/" then .ok path
  else
    match (Text.split '/' path).filter fun part => part ≠ "" ∧ part ≠ "." with
    | [] => .ok path
    | first :: rest =>
      if Text.startsWith first "~" then
        match s.home? (Text.dropFirst 1 first) with
        | some home => .ok (Text.join "/" (home :: rest))
        | none => .error .homeless
      else .ok path

/-- The name of the file of settings. -/
def settingsFile : String := ".env"

/-- The content of the file of settings, if there is one. -/
def settings (s : Surroundings) : Except Failure (Option String) :=
  match s.files.get? (s.directory ++ [settingsFile]) with
  | some (.file bytes) => do
    let content ← (Text.Utf8.decode bytes).mapError Failure.undecodable
    return some (String.ofList content)
  | _ => .ok none

/-- The configuration that the surroundings give. -/
def config (s : Surroundings) : Except Failure Config := do
  (Config.load s.env (← s.settings)).mapError Failure.settings

end Surroundings

/-- The policies held: the place that has been asked for, and the policies of the last build with
the file they are from. -/
structure Store where
  override : Option String
  held : Option (Path × List Policy)

namespace Store

/-- A store that holds nothing yet. -/
def empty (override : Option String) : Store := ⟨override, none⟩

/-- The file that the policies held are from. -/
def source (s : Store) : Option Path := s.held.map Prod.fst

end Store

/-- What stays between the alerts of one program run. -/
structure Session where
  place : Surroundings
  /-- The configuration in force, once it has been built. -/
  config : Option Config
  store : Store
  /-- The client, once it has been made. -/
  client : Option Client
  requests : List Request
  journal : Journal
  context : Context

namespace Session

/-- A session in which nothing has happened. -/
def start (place : Surroundings) (override : Option String) : Session where
  place := place
  config := none
  store := .empty override
  client := none
  requests := []
  journal := []
  context := .empty

end Session

/-- A step of a session. -/
abbrev Run := ExceptT Failure (StateM Session)

namespace Run

/-- What a step ends with in a session, and the session after it. -/
def inSession {α : Type} (step : Run α) (session : Session) : Except Failure α × Session :=
  (ExceptT.run step).run session

/-- Builds the configuration again. -/
def reconfigure : Run Config := do
  let config ← (← get).place.config
  modify fun s => { s with config := some config }
  return config

/-- The configuration in force. -/
def config : Run Config := do
  match (← get).config with
  | some config => return config
  | none => reconfigure

/-- Notes what has happened. -/
def note (event : Event) : Run Unit := modify fun s => { s with journal := s.journal ++ [event] }

/-- The client; the first time it is asked for, it is made by the configuration. -/
def client : Run Client := do
  match (← get).client with
  | some client => return client
  | none =>
    let client := Client.make (← config).backend none none
    modify fun s => { s with client := some client }
    return client

/-- Makes a call of the backend; a failure of the backend is left to the caller. -/
def call {α : Type} (f : List Request → Outcome α) : Run (Except BackendError α) := do
  let (requests, result) := f (← get).requests
  modify fun s => { s with requests := requests }
  match result with
  | .ok a => return .ok a
  | .error (.backend error) => return .error error
  | .error (.breakdown b) => throw (.breakdown b)

end Run

end Triage
