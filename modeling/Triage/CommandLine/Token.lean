import Triage.Text.Quoted
import Triage.Text.Basic

/-!
# Arguments and options

An argument that starts with a dash is an option, by one of its names or by the start of exactly
one; a value may follow an equals sign. Negative numbers and arguments with blanks are no options,
and after two dashes nothing is.
-/

namespace Triage.CommandLine

open Text

/-- An option by its names. -/
structure OptionForm where
  /-- The word for the option in messages. -/
  title : String
  names : List String
  takesValue : Bool
  deriving DecidableEq, Repr

/-- A value that stands in the same argument as its option. -/
structure Attached where
  /-- There is an equals sign between the two. -/
  equals : Bool
  value : List Char
  deriving DecidableEq, Repr

/-- An argument as it reads. -/
inductive Token where
  | word (s : String)
  | known (form : OptionForm) (attached : Option Attached)
  | unknown (s : String)
  /-- Two dashes. -/
  | divider
  deriving DecidableEq, Repr

/-- What is wrong with arguments. -/
inductive Misuse where
  | ambiguous (argument : String) (names : List String)
  | noValue (option : String)
  | idleValue (option : String) (value : String)
  | unknownCommand (word : String) (commands : List String)
  | noCommand
  | unrecognised (arguments : List String)
  deriving DecidableEq, Repr

/-- The message for a misuse. -/
def Misuse.message : Misuse → String
  | ambiguous argument names =>
    let names := join ", " names
    s!"ambiguous option: {argument} could match {names}"
  | noValue option => s!"argument {option}: expected one argument"
  | idleValue option value =>
    s!"argument {option}: ignored explicit argument " ++ quoted value
  | unknownCommand word commands =>
    let commands := join ", " (commands.map quoted)
    s!"argument command: invalid choice: {quoted word} (choose from {commands})"
  | noCommand => "the following arguments are required: command"
  | unrecognised arguments => "unrecognized arguments: " ++ join " " arguments

/-- The names of options with the options that they name, in order. -/
def namesOf (forms : List OptionForm) : List (String × OptionForm) :=
  forms.flatMap fun form => form.names.map fun name => (name, form)

/-- The text before an equals sign and the value after it, if there is one. -/
def cutEquals (s : List Char) : List Char × Option Attached :=
  (s.takeWhile (· ≠ '='), match s.dropWhile (· ≠ '=') with
    | _ :: value => some ⟨true, value⟩
    | [] => none)

/-- The options that an argument may stand for by the start of their names. -/
def matchesOf (names : List (String × OptionForm)) (s : List Char) :
    List (String × OptionForm × Option Attached) :=
  match s with
  | '-' :: '-' :: _ =>
    let (start, attached) := cutEquals s
    (names.filter fun n => start.isPrefixOf n.1.toList).map fun n => (n.1, n.2, attached)
  | _ =>
    names.filterMap fun n =>
      if n.1.toList = s.take 2 then some (n.1, n.2, some ⟨false, s.drop 2⟩)
      else if s.isPrefixOf n.1.toList then some (n.1, n.2, none)
      else none

/-- A dash and a number; a line break may follow. -/
def isNegativeNumber (s : List Char) : Bool :=
  let isDigit (c : Char) : Bool := isDecimalPoint c.toNat
  let s := match s.getLast? with
    | some '\n' => s.dropLast
    | _ => s
  match s with
  | '-' :: rest =>
    match rest.dropWhile isDigit with
    | [] => !rest.isEmpty
    | '.' :: rest => !rest.isEmpty && rest.all isDigit
    | _ => false
  | _ => false

/-- Reads an argument that may be an option. -/
def Token.ofArgument (forms : List OptionForm) (s : String) : Except Misuse Token :=
  let names := namesOf forms
  if !startsWith s "-" || s = "-" then .ok (.word s)
  else
    match names.lookup s with
    | some form => .ok (.known form none)
    | none =>
      let (start, attached) := cutEquals s.toList
      match attached, names.lookup (String.ofList start) with
      | some attached, some form => .ok (.known form (some attached))
      | _, _ =>
        match matchesOf names s.toList with
        | [(_, form, attached)] => .ok (.known form attached)
        | [] =>
          if isNegativeNumber s.toList || s.contains ' ' then .ok (.word s)
          else .ok (.unknown s)
        | many => .error (.ambiguous s (many.map Prod.fst))

/-- Reads arguments in order; after the first two dashes all are words. -/
def Token.ofArguments (forms : List OptionForm) : List String → Except Misuse (List Token)
  | [] => .ok []
  | "--" :: rest => .ok (.divider :: rest.map .word)
  | s :: rest => do return (← ofArgument forms s) :: (← ofArguments forms rest)

end Triage.CommandLine
