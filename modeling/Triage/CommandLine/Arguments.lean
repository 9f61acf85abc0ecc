import Triage.CommandLine.Token

/-!
# The command line

A command line has options, then a command with arguments of its own. Everything from the first word
on belongs to the command. What nobody understands is collected and refused at the end, all of it at
once.
-/

namespace Triage.CommandLine

/-- What to do. -/
inductive Command where
  /-- Analyses a text; without one the text comes from the input. -/
  | analyze (text : Option String)
  /-- Lists the policies. -/
  | policies
  deriving DecidableEq, Repr

/-- A command line that is understood. -/
structure Arguments where
  policies : Option String
  logLevel : Option String
  command : Command
  deriving DecidableEq, Repr

/-- The part of the command line that a message or a screen of help is about. -/
inductive Part where
  | whole
  | analyze
  | policies
  deriving DecidableEq, Repr

/-- What ends a run before it has started. -/
inductive Ending where
  /-- Help was asked for. -/
  | help (about : Part)
  | misuse (about : Part) (misuse : Misuse)
  deriving DecidableEq, Repr

/-- The option that asks for help. -/
def helpForm : OptionForm := ⟨"-h/--help", ["-h", "--help"], false⟩

/-- The option that names the policy file. -/
def policiesForm : OptionForm := ⟨"--policies", ["--policies"], true⟩

/-- The option that sets the level of the log. -/
def levelForm : OptionForm := ⟨"--log-level", ["--log-level"], true⟩

/-- The commands by their words. -/
def commandWords : List String := ["analyze", "policies"]

/-- The option for help with a value attached to it. Short options may stand behind it; it takes no
value itself, so a value is refused. -/
def helpAttached (about : Part) : Bool → List Char → Ending
  | equals, c :: rest =>
    if equals || c = '-' then
      .misuse about (.idleValue helpForm.title (String.ofList (c :: rest)))
    else if c = 'h' then
      match rest with
      | [] => .help about
      | '=' :: value => .misuse about (.idleValue helpForm.title (String.ofList value))
      | rest => helpAttached about false rest
    else .help about
  | _, [] => .misuse about (.idleValue helpForm.title "")

/-- The option for help ends a run. -/
def helpEnding (about : Part) : Option Attached → Ending
  | none => .help about
  | some attached => helpAttached about attached.equals attached.value

/-- The text among the arguments of a command, if the command takes one, and what is left over. -/
structure Operands where
  text : Option String
  leftOver : List String

/-- Reads the arguments of a command; `wanted` says whether a text is still to come. A divider in
front of the text or behind it belongs to it. -/
def readOperands (about : Part) (wanted : Bool) (done : Operands) :
    List (String × Token) → Except Ending Operands
  | [] => .ok done
  | (_, .known _ attached) :: _ => .error (helpEnding about attached)
  | (s, .unknown _) :: rest =>
    readOperands about wanted { done with leftOver := done.leftOver ++ [s] } rest
  | (s, .word _) :: rest =>
    if wanted then
      let done := { done with text := some s }
      match rest with
      | (_, .divider) :: rest => readOperands about false done rest
      | rest => readOperands about false done rest
    else readOperands about wanted { done with leftOver := done.leftOver ++ [s] } rest
  | (s, .divider) :: rest =>
    if wanted then
      match rest with
      | (_, .word text) :: rest => readOperands about false { done with text := some text } rest
      | rest => readOperands about false done rest
    else readOperands about wanted { done with leftOver := done.leftOver ++ [s] } rest

/-- Reads the arguments of a command from its words. -/
def operands (about : Part) (wanted : Bool) (arguments : List String) :
    Except Ending Operands := do
  let tokens ← (Token.ofArguments [helpForm] arguments).mapError (Ending.misuse about)
  readOperands about wanted ⟨none, []⟩ (arguments.zip tokens)

/-- What has been read in front of the command. -/
structure Front where
  policies : Option String
  logLevel : Option String
  leftOver : List String

namespace Front

/-- Takes the value of an option; the last one counts. -/
def put (f : Front) (form : OptionForm) (value : String) : Front :=
  if form = policiesForm then { f with policies := some value }
  else if form = levelForm then { f with logLevel := some value }
  else f

/-- Reads a command with its arguments. -/
def command (f : Front) (word : String) (arguments : List String) : Except Ending Arguments := do
  let (command, leftOver) ←
    if word = "analyze" then do
      let o ← operands .analyze true arguments
      pure (Command.analyze o.text, o.leftOver)
    else if word = "policies" then do
      let o ← operands .policies false arguments
      pure (Command.policies, o.leftOver)
    else throw (.misuse .whole (.unknownCommand word commandWords))
  match f.leftOver ++ leftOver with
  | [] => return ⟨f.policies, f.logLevel, command⟩
  | leftOver => throw (.misuse .whole (.unrecognised leftOver))

/-- Reads options up to the command. A divider would be taken for the command. -/
def read (f : Front) : List (String × Token) → Except Ending Arguments
  | [] | [(_, .divider)] => .error (.misuse .whole .noCommand)
  | (word, .divider) :: _ => .error (.misuse .whole (.unknownCommand word commandWords))
  | (s, .unknown _) :: rest => read { f with leftOver := f.leftOver ++ [s] } rest
  | (word, .word _) :: rest => f.command word (rest.map Prod.fst)
  | (_, .known form attached) :: rest =>
    if form.takesValue then
      match attached, rest with
      | some attached, rest => read (f.put form (String.ofList attached.value)) rest
      | none, (value, .word _) :: rest => read (f.put form value) rest
      | none, _ => .error (.misuse .whole (.noValue form.title))
    else .error (helpEnding .whole attached)

end Front

/-- Reads a command line. -/
def Arguments.read (arguments : List String) : Except Ending Arguments := do
  let forms := [helpForm, policiesForm, levelForm]
  let tokens ← (Token.ofArguments forms arguments).mapError (Ending.misuse .whole)
  Front.read ⟨none, none, []⟩ (arguments.zip tokens)

end Triage.CommandLine
