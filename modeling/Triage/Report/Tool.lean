import Triage.Template

/-!
# Tools

A template may hand an action to a tool. The tools are a closed set; each asks for certain
parameters and writes the text that an approver sees. A parameter that the template does not give is
taken from the alert's field of its name, then from the tool's default. Nothing is executed here.

How a tool writes its text can be replaced, see `Toolbox`; which tools there are cannot.
-/

namespace Triage

/-- The tools. -/
inductive Tool where
  | gcloudCommand
  | gcloudScaleUp
  | terragruntAutoscalerDiff
  | machineTypeDiff
  | githubPrAppend
  deriving DecidableEq, Repr

/-- Why a tool gives no action. -/
inductive ToolFault where
  | unknown (name : String)
  | missing (tool : String) (parameters : List String)
  | notGcloud
  | noCommand
  /-- The one who writes the text refuses, in words of its own. -/
  | refused (message : String)
  /-- The one who writes the text breaks down. -/
  | broken (tool : Tool) (message : String)
  deriving DecidableEq, Repr

/-- What a tool writes: the text to show and the parameters to execute with later. -/
structure Rendering where
  text : String
  parameters : Record

/-- What a tool asks for: the parameters that it must have, and those that it has a default for. -/
structure ToolSpec where
  name : String
  required : List String
  defaults : Record

namespace ToolSpec

/-- The names that may be taken from the fields of an alert. -/
def fieldNames (spec : ToolSpec) : List String := spec.required ++ spec.defaults.names

/-- A template parameter for the fields of an alert: a text is a template of its own, and null
unless all of its placeholders can be filled. -/
def fillParameter (fields : Record) : Json → Json
  | .string s =>
    if (Template.unresolved s fields).isEmpty then .string (Template.render s fields) else .null
  | v => v

/-- The first of the values that is not null. -/
def firstGiven (values : List Json) : Json := (values.find? fun v => !v.isNull).getD .null

/-- The parameter of a name: as the template gives it, else the field, else the default. -/
def parameter (spec : ToolSpec) (given fields : Record) (name : String) : Json :=
  firstGiven [given.getD name, fields.getD name, spec.defaults.getD name]

/-- A required parameter that is null or empty is missing. -/
def isMissing : Json → Bool
  | .null | .string "" => true
  | _ => false

/-- The parameters that the template gives, for the fields of an alert. -/
def given (template fields : Record) : Record :=
  template.foldl (fun r p => r.set p.1 (fillParameter fields p.2)) []

/-- The parameters of a tool for one alert, whether or not one is missing. -/
def resolved (spec : ToolSpec) (template fields : Record) : Record :=
  let given := given template fields
  spec.fieldNames.foldl (fun r name => r.set name (spec.parameter given fields name)) given

/-- The required parameters that are missing, in order. -/
def missing (spec : ToolSpec) (parameters : Record) : List String :=
  spec.required.filter fun name => isMissing (parameters.getD name)

/-- The parameters of a tool for one alert. -/
def resolve (spec : ToolSpec) (template fields : Record) : Except ToolFault Record :=
  let parameters := spec.resolved template fields
  match spec.missing parameters with
  | [] => .ok parameters
  | missing => .error (.missing spec.name missing)

end ToolSpec

namespace Tool

/-- All tools. -/
def all : List Tool :=
  [gcloudCommand, gcloudScaleUp, terragruntAutoscalerDiff, machineTypeDiff, githubPrAppend]

/-- The name of a tool in templates. -/
def name : Tool → String
  | gcloudCommand => "gcloud_command"
  | gcloudScaleUp => "gcloud_scale_up"
  | terragruntAutoscalerDiff => "terragrunt_autoscaler_diff"
  | machineTypeDiff => "machine_type_diff"
  | githubPrAppend => "github_pr_append"

/-- The tool of a name. -/
def ofName? (s : String) : Option Tool := all.find? fun tool => tool.name = s

/-- The parameters that a tool must have. -/
def required : Tool → List String
  | gcloudCommand => ["command"]
  | gcloudScaleUp => ["gcloud_command"]
  | terragruntAutoscalerDiff =>
    ["service_name", "schedule_name", "schedule_expression", "duration_sec", "min_replicas"]
  | machineTypeDiff =>
    ["environment", "service_name", "current_machine_type", "target_machine_type"]
  | githubPrAppend => ["repository", "file_path", "block", "title"]

/-- The parameters that a tool has a default for. -/
def defaults : Tool → Record
  | gcloudCommand => []
  | gcloudScaleUp => [("service_name", .null)]
  | terragruntAutoscalerDiff =>
    [("time_zone", .string "Etc/UTC"), ("environment", .string "production")]
  | machineTypeDiff => []
  | githubPrAppend => [("base_branch", .string "main")]

/-- What a tool asks for. -/
def spec (tool : Tool) : ToolSpec := ⟨tool.name, tool.required, tool.defaults⟩

/-- The parameters of a tool for one alert. -/
def resolve (tool : Tool) (template fields : Record) : Except ToolFault Record :=
  tool.spec.resolve template fields

/-- A parameter as text. -/
def say (parameters : Record) (name : String) : String := (parameters.getD name).display

/-- A command without space around it. -/
def command (parameters : Record) (name : String) : String := Text.trim (say parameters name)

/-- The file that describes a service. -/
def servicePath (p : Record) : String :=
  say p "environment" ++ "/" ++ say p "service_name" ++ "/terragrunt.hcl"

/-- The block that schedules a service. -/
def autoscalerBlock (p : Record) : List String := [
  "  autoscaler \x7b",
  "    name = \"" ++ say p "schedule_name" ++ "\"",
  "    schedule = \"" ++ say p "schedule_expression" ++ "\"",
  "    duration_sec = " ++ say p "duration_sec",
  "    min_required_replicas = " ++ say p "min_replicas",
  "    time_zone = \"" ++ say p "time_zone" ++ "\"",
  "  \x7d",
  "  // Autoscaler"]

/-- A change that adds the block that schedules a service. -/
def autoscalerDiff (p : Record) (block : String) : String :=
  let path := servicePath p
  let added := (Text.split '\n' block).map ("+" ++ ·)
  Text.join "\n" (["--- a/" ++ path, "+++ b/" ++ path, "@@ -283,6 +283,14 @@"] ++ added)

/-- A change of a machine type. -/
def machineDiff (p : Record) : String :=
  let path := servicePath p
  Text.join "\n" [
    "diff --git a/" ++ path ++ " b/" ++ path,
    "--- a/" ++ path,
    "+++ b/" ++ path,
    "@@ -90,7 +90,7 @@ inputs = merge(",
    "     // Instance Template",
    "     instance_template = \x7b",
    "       name         = local.tf_var_files.name",
    "-      machine_type = \"" ++ say p "current_machine_type" ++ "\"",
    "+      machine_type = \"" ++ say p "target_machine_type" ++ "\"",
    "       tags         = local.tf_var_files.default_network_tags"]

/-- A plan for a pull request. -/
def pullRequest (p : Record) : String :=
  "Open pull request on " ++ say p "repository" ++ " (base " ++ say p "base_branch" ++ "): " ++
    say p "title" ++ "\nAppend to " ++ say p "file_path" ++ ":\n" ++ say p "block"

/-- What a tool writes for its parameters. -/
def render (tool : Tool) (p : Record) : Except ToolFault Rendering :=
  match tool with
  | gcloudCommand =>
    let text := command p "command"
    if Text.startsWith text "gcloud" then .ok ⟨text, p.set "command" (.string text)⟩
    else .error .notGcloud
  | gcloudScaleUp =>
    let text := command p "gcloud_command"
    if text = "" then .error .noCommand
    else .ok ⟨text, p.set "gcloud_command" (.string text)⟩
  | terragruntAutoscalerDiff =>
    let block := Text.join "\n" (autoscalerBlock p)
    .ok ⟨autoscalerDiff p block, p.set "autoscaler_block" (.string block)⟩
  | machineTypeDiff => .ok ⟨machineDiff p, p⟩
  | githubPrAppend => .ok ⟨pullRequest p, p⟩

end Tool

/-- The message for a fault. -/
def ToolFault.message : ToolFault → String
  | .unknown name => s!"Unknown tool '{name}'"
  | .missing tool parameters =>
    let names := Text.join ", " parameters
    s!"Missing required parameters for {tool}: {names}"
  | .notGcloud => "Only gcloud commands are allowed"
  | .noCommand => "gcloud command is required"
  | .refused message => message
  | .broken tool message => s!"{tool.name} failed: {message}"

/-- How each tool writes its text. -/
abbrev Toolbox := Tool → Record → Except ToolFault Rendering

namespace Toolbox

/-- Every tool writes its own text. -/
def builtin : Toolbox := Tool.render

/-- Replaces how one tool writes its text. -/
def replace (box : Toolbox) (tool : Tool) (renderer : Record → Except ToolFault Rendering) :
    Toolbox := fun t => if t = tool then renderer else box t

/-- Resolves the parameters of a tool by its name and has it write its text. -/
def render (box : Toolbox) (name : String) (template fields : Record) :
    Except ToolFault Rendering :=
  match Tool.ofName? name with
  | none => .error (.unknown name)
  | some tool => (tool.resolve template fields).bind (box tool)

end Toolbox

/-- The message for a replacement of a tool that does not exist. -/
def unknownReplacement (name : String) : String :=
  let names := Text.join ", " (["gcloud_command", "gcloud_scale_up", "github_pr_append",
    "machine_type_diff", "terragrunt_autoscaler_diff"].map Text.quoted)
  s!"Unknown tool '{name}'; expected one of [{names}]"

end Triage
