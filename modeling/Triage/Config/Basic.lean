import Triage.Schema.Field
import Triage.Config.Dotenv
import Triage.Text.Case

/-!
# Configuration

What is configured: where the policies are, how much is logged, which backend is asked and how long,
and which alert types are never returned. All of it comes from the environment; a file of settings
stands in for the first two where the environment does not give them.

The environment is read as version 2 of pydantic-settings reads it, and checked as by version 2.14 of
pydantic. One way to set something is left out: a variable with the name of a whole group of settings
(`OLLAMA`, `PARSER`) and an object for its value, in JSON. Such variables are not looked at here.
-/

namespace Triage

open Schema

/-- The variables of the environment, in order. Their names count without regard to case. -/
abbrev Environment := List (String × String)

namespace Environment

/-- The value of a variable, whose name is given in small letters; of several the last counts. -/
def get? (env : Environment) (name : String) : Option String :=
  (env.reverse.find? fun v => Text.lower v.1 = name).map Prod.snd

/-- The value of a variable of exactly this name. -/
def spelled? (env : Environment) (name : String) : Option String := env.lookup name

/-- Sets a variable, or takes it out. -/
def put (env : Environment) (name : String) : Option String → Environment
  | some value =>
    if env.any fun v => v.1 = name then
      env.map fun v => if v.1 = name then (name, value) else v
    else env ++ [(name, value)]
  | none => env.filter fun v => v.1 ≠ name

end Environment

/-- A document of a kind that has issues. -/
structure Invalid where
  kind : String
  issues : List Issue
  deriving DecidableEq, Repr

/-- The headline over the issues. -/
def Invalid.message (i : Invalid) : String := headline i.kind i.issues

/-- How the backend is asked. -/
structure BackendSettings where
  url : Option String
  host : Option String
  model : String
  healthTimeout : Binary64
  chatTimeout : Binary64
  temperature : Binary64
  deriving DecidableEq, Repr

/-- An address with a scheme and without slashes at its end. -/
def normalizeAddress (s : String) : String :=
  Text.trimEndSlashes (if Text.startsWith s "http" then s else "http://" ++ s)

/-- The first text that is there and not empty. -/
def firstText (texts : List (Option String)) (default : String) : String :=
  ((texts.filterMap id).find? (· ≠ "")).getD default

namespace BackendSettings

/-- The address of a backend on the same machine. -/
def localAddress : String := "http://localhost:11434"

/-- The address of the backend: the configured address, else the configured host. -/
def baseUrl (s : BackendSettings) : String :=
  normalizeAddress (firstText [s.url, s.host] localAddress)

/-- The variables with the given start to their names, as fields. -/
def fieldsOf (env : Environment) (start : String) (names : List String) : Record :=
  names.filterMap fun name => (env.get? (start ++ name)).map fun v => (name, .string v)

/-- Checks the settings that the environment gives. -/
def check (env : Environment) : Checked BackendSettings :=
  let r := fieldsOf env "ollama_"
    ["url", "host", "model", "health_timeout", "chat_timeout", "temperature"]
  let two := Binary64.ofInt 2
  BackendSettings.mk <$> withDefault r "url" none (optional text)
    <*> withDefault r "host" none (optional text)
    <*> withDefault r "model" "llama3" text
    <*> withDefault r "health_timeout" (Binary64.ofInt 5) (numberAbove .zero)
    <*> withDefault r "chat_timeout" (Binary64.ofInt 30) (numberAbove .zero)
    <*> withDefault r "temperature" (Binary64.ofDecimal false 1 (-1)) (numberBetween .zero two)

end BackendSettings

/-- The configuration. -/
structure Config where
  policiesPath : Option String
  logLevel : String
  backend : BackendSettings
  disabledAlertTypes : String
  deriving DecidableEq, Repr

namespace Config

/-- Checks the name of a log level. -/
def checkLevel (v : Json) : Checked String :=
  (text v).andThen fun s =>
    if Text.upper s ∈ levelNames then .valid (Text.upper s) else .fault (.rule .unknownLevel)

/-- The items of a list separated by commas, without space around them and without empty ones. -/
def items (s : String) : List String :=
  ((Text.split ',' s).map Text.trim).filter (· ≠ "")

/-- The alert types that are never returned. -/
def denylist (c : Config) : List String := (items c.disabledAlertTypes).eraseDups

/-- A setting of the environment, or else of the file. -/
def setting (env : Environment) (file : Dotenv.Settings) (name : String) : Record :=
  match env.get? name, file.get? name with
  | some v, _ | none, some v => [(name, .string v)]
  | none, none => []

/-- The configuration that the environment and the file of settings give. The backend's settings
are checked first, each by a variable of its own. -/
def load (env : Environment) (file : Option String) : Except Invalid Config :=
  match BackendSettings.check env with
  | .invalid issues => .error ⟨"OllamaConfig", issues⟩
  | .countTooLarge => .error ⟨"OllamaConfig", []⟩
  | .valid backend =>
    let settings := match file with
      | some content => Dotenv.settings env.spelled? content
      | none => []
    let r := setting env settings "policies_path" ++ setting env settings "log_level"
    let parts := (fun path level => Config.mk path level backend
        ((env.get? "parser_disabled_alert_types").getD ""))
      <$> withDefault r "policies_path" none (optional text)
      <*> withDefault r "log_level" "INFO" checkLevel
    match parts with
    | .valid c => .ok c
    | .invalid issues => .error ⟨"Config", issues⟩
    | .countTooLarge => .error ⟨"Config", []⟩

end Config

end Triage
