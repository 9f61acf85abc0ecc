import Std.Time.DateTime
import Triage.CommandLine.Outcome
import Triage.Policy.Standard
import Triage.Report.Moment

/-!
# The program

Gathers from the machine what a run needs, runs it, and writes what it says. Only the files that the
run asks for are read: the settings, the policies at the usual places, and the policy file that the
command line or the configuration names. The shipped policies stand in for the usual ones.

The program opens no connection, so every model it asks is out of reach; alerts that the policies
settle need none.
-/

namespace Triage

/-- The path that a text from the machine spells out. -/
def pathOfText (s : String) : Path := Path.resolve [] s

/-- The number by which the machine says that a file is a directory. -/
def directoryCode : UInt32 := 21

/-- What stands under a path of the machine. -/
def entryAt (p : Path) : IO (Option Entry) := do
  try
    return some (.file (← IO.FS.readBinFile p.text).toList)
  catch
    | .inappropriateType _ code _ =>
      return if code = directoryCode then some .directory else none
    | .noFileOrDirectory .. => return none
    | e => throw e

/-- Adds what stands under a path of the machine to the surroundings, if anything does. -/
def withEntry (place : Surroundings) (p : Path) : IO Surroundings := do
  match ← entryAt p with
  | some entry => return { place with files := place.files.put p entry }
  | none => return place

/-- A variable as the machine writes it: a name, an equals sign and its value. -/
def assignment? (bytes : List UInt8) : Option (String × String) :=
  match Text.Utf8.decode bytes with
  | .ok s =>
    match s.dropWhile (· ≠ '=') with
    | _ :: value => some (String.ofList (s.takeWhile (· ≠ '=')), String.ofList value)
    | [] => none
  | .error _ => none

/-- The variables of the environment, each of which a zero ends. -/
def environmentOfBytes (bytes : List UInt8) : Environment :=
  (bytes.splitBy fun b _ => b ≠ 0).filterMap fun entry => assignment? (entry.filter (· ≠ 0))

/-- The variables of the environment. -/
def environment : IO Environment := do
  match ← entryAt ["proc", "self", "environ"] with
  | some (.file bytes) => return environmentOfBytes bytes
  | _ => return []

/-- What the program finds around it before it has looked for a configured policy file. -/
def usualSurroundings : IO Surroundings := do
  let directory := pathOfText (← IO.currentDir).toString
  let standard := directory ++ ["config", "policies.json"]
  let legacy := directory ++ ["policies.json"]
  let shipped := (Standard.document.write .compact).toUTF8.toList
  let env ← environment
  let place : Surroundings := {
    directory := directory
    standard := standard
    legacy := legacy
    files := Files.put [] standard (.file shipped)
    env := env
    homes := (env.spelled? "HOME").toList.map fun home => ("", home) }
  [directory ++ [Surroundings.settingsFile], standard, legacy].foldlM withEntry place

/-- What the program finds around it, the policy file that a run would read included. -/
def surroundings (arguments : List String) : IO Surroundings := do
  let place ← usualSurroundings
  match CommandLine.Arguments.read arguments with
  | .error _ => return place
  | .ok understood =>
    match (Store.locate understood.policies).inSession (.start place none) with
    | (.ok path, _) => withEntry place path
    | (.error _, _) => return place

/-- The input, if a run takes its text from there. -/
def inputFor (arguments : List String) : IO String := do
  match CommandLine.Arguments.read arguments with
  | .ok understood =>
    if understood.command.readsInput then
      let bytes ← (← IO.getStdin).readBinToEnd
      match Text.Utf8.decode bytes.toList with
      | .ok s => return String.ofList (Text.unifyNewlines s)
      | .error fault => throw (IO.userError fault.message)
    else return ""
  | .error _ => return ""

/-- A correlation id that no other run has. -/
def freshId : IO String := do
  return String.join ((← IO.getRandomBytes 16).toList.map fun b => Text.hex 2 b.toNat)

/-- The moment it is. -/
def presentMoment : IO Moment := do
  return ⟨(← Std.Time.Timestamp.now).toNanosecondsSinceUnixEpoch.val.toNat / 1000⟩

/-- A backend that cannot be reached. -/
def unreachable : Backend := fun _ _ => .broken "ConnectError" "All connection attempts failed"

end Triage

open Triage in
/-- Runs the command line and ends with its code. -/
def main (arguments : List String) : IO UInt32 := do
  let place ← surroundings arguments
  let world : CommandLine.World := {
    backend := unreachable
    now := (← presentMoment).text
    fresh := ← freshId
    input := ← inputFor arguments }
  match CommandLine.run world place arguments with
  | (.ok outcome, _) =>
    (← IO.getStdout).putStr outcome.output
    (← IO.getStderr).putStr outcome.errors
    return outcome.code.toUInt32
  | (.error abort, _) =>
    (← IO.getStderr).putStr (abort.message ++ "\n")
    return 1
