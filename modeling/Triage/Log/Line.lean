import Triage.Log.Context
import Triage.Log.Layout
import Triage.Text.Case

/-!
# Logging

Lines at or above the level that is set up are written in the layout that is set up. Before anything
is set up, only warnings and what is graver are written, as bare messages.
-/

namespace Triage.Log

/-- How lines are logged: the least level, and the layout if one is set up. -/
structure Setup where
  level : Nat
  layout : Option String
  deriving DecidableEq, Repr

/-- The levels by name; of several names the first is the one that is written. -/
def levels : List (String × Nat) := [
  ("DEBUG", 10), ("INFO", 20), ("WARNING", 30), ("ERROR", 40), ("CRITICAL", 50), ("NOTSET", 0),
  ("WARN", 30), ("FATAL", 50)]

/-- The level that is set up where the name of a level is unknown. -/
def usualLevel : Nat := 20

/-- The level of warnings. -/
def warning : Nat := 30

/-- The name of a level. -/
def levelName (level : Nat) : String :=
  match levels.find? fun l => l.2 = level with
  | some (name, _) => name
  | none => "Level " ++ Text.ofNat level

/-- The name of the layout that is meant for programs without one; it is no level. -/
def basicName : String := "BASIC_FORMAT"

/-- The layout of that name. -/
def basicLayout : String := "%(levelname)s:%(name)s:%(message)s"

/-- The layout of lines. -/
def usualLayout : String :=
  "[%(asctime)s] %(levelname)-8s [correlation_id=%(correlation_id)s] %(name)s: %(message)s"

/-- Why logging cannot be set up. -/
inductive Fault where
  | noField (layout : String)
  | noLevel (layout : String)
  deriving DecidableEq, Repr

/-- The message for a fault. -/
def Fault.message : Fault → String
  | noField layout => s!"Invalid format '{layout}' for '%' style"
  | noLevel layout => "Unknown level: " ++ Text.quoted layout

namespace Setup

/-- Nothing is set up. -/
def initial : Setup := ⟨warning, none⟩

/-- Sets up a level by its name and a layout. A layout without fields takes the one before it away;
a name that is no level leaves the level before it. -/
def change (s : Setup) (level : String) (layout : Option String) : Setup × Option Fault :=
  let layout := (layout.filter (· ≠ "")).getD usualLayout
  if !hasField layout then (⟨s.level, none⟩, some (.noField layout))
  else
    let name := Text.upper level
    if name = basicName then (⟨s.level, some layout⟩, some (.noLevel basicLayout))
    else (⟨(levels.lookup name).getD usualLevel, some layout⟩, none)

end Setup

/-- Something to log. -/
structure Entry where
  logger : String
  level : Nat
  message : String
  deriving DecidableEq, Repr

/-- The fields of a line. -/
def value? (context : Context) (time : String) (e : Entry) (name : String) : Option Value :=
  match name with
  | "asctime" => some (.text time)
  | "name" => some (.text (if e.logger = "" then "root" else e.logger))
  | "levelname" => some (.text (levelName e.level))
  | "levelno" => some (.number e.level)
  | "message" | "msg" => some (.text e.message)
  | "correlation_id" => some (.text (Context.shown context.correlationId))
  | "alert_type" => some (.text (Context.shown context.alertType))
  | _ => none

/-- What is written for an entry. -/
def Setup.line (s : Setup) (context : Context) (time : String) (e : Entry) : String :=
  if e.level = 0 ∨ e.level < s.level then ""
  else
    match s.layout with
    | none => if warning ≤ e.level then e.message ++ "\n" else ""
    | some layout =>
      match fill (value? context time e) layout with
      | some line => line ++ "\n"
      | none => ""

end Triage.Log
