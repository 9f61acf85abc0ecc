import Triage.Report.Tool
import Triage.Alert

/-!
# Action options

Every action template of a policy becomes one option, on its own: an option that cannot be rendered
says so in its action and leaves the others alone.
-/

namespace Triage

open Schema

/-- A candidate action. -/
structure ActionOption where
  label : String
  description : Option String
  action : String
  tool : Option String
  parameters : Record
  failed : Bool

namespace ActionOption

/-- An action that starts with this could not be rendered. -/
def errorMark : String := "[action-error] "

/-- The action says that it could not be rendered. -/
def isError (action : String) : Bool := Text.startsWith action errorMark

/-- The option of one template. -/
def ofTemplate (box : Toolbox) (fields : Record) (t : ActionTemplate) : ActionOption :=
  match t.tool? with
  | none => ⟨t.label, t.description, Template.render t.template fields, none, [], false⟩
  | some tool =>
    match box.render tool t.parameters fields with
    | .error fault => ⟨t.label, t.description, errorMark ++ fault.message, tool, [], true⟩
    | .ok rendering => ⟨t.label, t.description, rendering.text, tool, rendering.parameters, false⟩

/-- Checks the fields of an option. -/
def check : Json → Checked ActionOption := object fun r =>
  ActionOption.mk <$> required r "label" text
    <*> withDefault r "description" none (optional text)
    <*> required r "action" text
    <*> withDefault r "tool" none (optional text)
    <*> withDefault r "parameters" [] anyMap
    <*> withDefault r "failed" false truth

/-- The fields of an option as a document has them. -/
def fields (o : ActionOption) : Record := [
  ("label", .string o.label),
  ("description", textOrNull o.description),
  ("action", .string o.action),
  ("tool", textOrNull o.tool),
  ("parameters", .object o.parameters),
  ("failed", .bool o.failed)]

end ActionOption

end Triage
