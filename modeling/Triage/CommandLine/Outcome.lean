import Triage.Analysis
import Triage.CommandLine.Usage
import Triage.Log.Line

/-!
# Running a command line

A run ends with a code: 0 where something was done, 1 where the text is blank or nobody can
interpret it, 2 where the command line or the configuration is wrong. The configuration is built
first, and the policies are read before any model is asked, so a broken policy file never costs a
request.
-/

namespace Triage.CommandLine

/-- How a run ends: its code and what it has written. -/
structure Outcome where
  code : Nat
  output : String
  errors : String
  deriving DecidableEq, Repr

namespace Outcome

/-- A run that ends well. -/
def fine (output : String) : Outcome := ⟨0, output, ""⟩

/-- A run that ends without an answer. -/
def unanswered (output errors : String) : Outcome := ⟨1, output, errors⟩

/-- A run that the configuration does not allow. -/
def misconfigured (message : String) : Outcome :=
  ⟨2, "", s!"Configuration error: {message}\n"⟩

/-- A command line that is not understood, or that asks for help. -/
def ofEnding : Ending → Outcome
  | .help about => fine about.help
  | .misuse about misuse => ⟨2, "", about.usage ++ s!"{about.name}: error: {misuse.message}\n"⟩

end Outcome

/-- Why a run ends without a code of its own. -/
inductive Abort where
  | failure (failure : Failure)
  | log (fault : Log.Fault)

/-- The message for an abort. -/
def Abort.message : Abort → String
  | failure f => f.message
  | log fault => fault.message

/-- The line of a policy in a listing. -/
def policyLine (p : Policy) : String :=
  let kind :=
    if p.patterns = [] then "metadata only" else Text.ofNat p.patterns.length ++ " pattern(s)"
  let actions := Text.ofNat p.actionTemplates.length
  "  " ++ Text.padEnd 32 p.alertType ++ s!" {kind}, {actions} action(s)\n"

/-- The listing of policies. -/
def listing (source : Option Path) (policies : List Policy) : String :=
  let place := (source.map Path.text).getD "None"
  s!"{Text.ofNat policies.length} policies loaded from {place}\n" ++
    String.join (policies.map policyLine)

/-- What is written where there is no report. -/
def noReport (reason : String) : String :=
  (Json.object [("matched", .bool false), ("error", .string reason)]).write .ascii ++ "\n"

/-- The report as it is written. -/
def reportText (r : Report) : String := (Json.object r.fields).write .report ++ "\n"

/-- What surrounds a run: the backend, the time and a fresh correlation id, and the input. -/
structure World where
  backend : Backend
  now : String
  fresh : String
  input : String

/-- Lists the policies. -/
def listPolicies : Run Outcome := do
  let policies ← Store.load
  return .fine (listing (← get).store.source policies)

/-- Analyses a text. -/
def analyzeText (world : World) (text : String) : Run Outcome := do
  if Text.isBlankText text then return .unanswered "" "Alert text is empty\n"
  let _ ← Store.load
  let analysis ← Analysis.ofText world.backend .builtin none world.now world.fresh none text
  match analysis.result with
  | .ok report => return .fine (reportText report)
  | .error reason => return .unanswered (noReport reason) ""

/-- The command takes its text from the input. -/
def Command.readsInput : Command → Bool
  | analyze none => true
  | _ => false

/-- Runs a command. -/
def Command.run (world : World) : Command → Run Outcome
  | policies => listPolicies
  | analyze text => analyzeText world (text.getD world.input)

/-- The outcome where the configuration cannot be built. -/
def unconfigured : Failure → Except Abort Outcome
  | .settings invalid => .ok (.misconfigured invalid.message)
  | .undecodable fault => .ok (.misconfigured fault.message)
  | failure => .error (.failure failure)

/-- The outcome where a command fails: a fault of the policies has a code of its own. -/
def failed : Failure → Except Abort Outcome
  | .policies fault => .ok (.misconfigured fault.message)
  | failure => .error (.failure failure)

/-- Runs what a command line says in a session. -/
def Arguments.run (world : World) (arguments : Arguments) (session : Session) :
    Except Abort Outcome × Session :=
  match Run.config.inSession session with
  | (.error failure, session) => (unconfigured failure, session)
  | (.ok config, session) =>
    let level := (arguments.logLevel.filter (· ≠ "")).getD config.logLevel
    match Log.Setup.initial.change level none with
    | (_, some fault) => (.error (.log fault), session)
    | (_, none) =>
      match (arguments.command.run world).inSession session with
      | (.error failure, session) => (failed failure, session)
      | (.ok outcome, session) => (.ok outcome, session)

/-- Runs a command line in its surroundings. -/
def run (world : World) (place : Surroundings) (arguments : List String) :
    Except Abort Outcome × Session :=
  match Arguments.read arguments with
  | .error ending => (.ok (.ofEnding ending), .start place none)
  | .ok arguments => arguments.run world (.start place arguments.policies)

end Triage.CommandLine
