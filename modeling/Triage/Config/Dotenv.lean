import Triage.Text.Basic
import Triage.Text.Case

/-!
# Files of settings

A file of settings binds names to values, one a line, perhaps after the word `export`. A value
stands in single quotes, in double quotes, or as it is up to a comment. Where a line cannot be read,
the rest of it is passed over. A value may refer to other settings by `${name}`, with a default
after `:-`.
-/

namespace Triage.Dotenv

open Text

/-- A line break. -/
def isBreak (c : Char) : Bool := c == '\n' || c == '\r'

/-- Space within a line. -/
def isInnerSpace (c : Char) : Bool := isSpace c && !isBreak c

/-- Drops space within a line. -/
def skipInner (s : List Char) : List Char := s.dropWhile isInnerSpace

/-- Passes over what is left of a line, its break included. -/
def skipLine (s : List Char) : List Char := (s.dropWhile (!isBreak ·)).drop 1

/-- Reads up to a closing quote that has no backslash before it; without one, up to the last
quote. -/
def quotedBody (quote : Char) : List Char → Option (List Char × List Char)
  | [] => none
  | '\\' :: c :: rest =>
    if c = quote then
      match quotedBody quote rest with
      | some (body, rest) => some ('\\' :: c :: body, rest)
      | none => some (['\\'], rest)
    else (quotedBody quote (c :: rest)).map fun (body, rest) => ('\\' :: body, rest)
  | c :: rest =>
    if c = quote then some ([], rest)
    else (quotedBody quote rest).map fun (body, rest) => (c :: body, rest)

/-- What an escape in double quotes stands for. -/
def doubleEscape? : Char → Option Char
  | '\\' => some '\\'
  | '\'' => some '\''
  | '"' => some '"'
  | 'a' => some (Char.ofNat 7)
  | 'b' => some (Char.ofNat 8)
  | 'f' => some (Char.ofNat 12)
  | 'n' => some '\n'
  | 'r' => some '\r'
  | 't' => some '\t'
  | 'v' => some (Char.ofNat 11)
  | _ => none

/-- What an escape in single quotes stands for. -/
def singleEscape? : Char → Option Char
  | '\\' => some '\\'
  | '\'' => some '\''
  | _ => none

/-- Puts characters in the place of escapes. -/
def unescape (escape? : Char → Option Char) : List Char → List Char
  | '\\' :: c :: rest =>
    match escape? c with
    | some d => d :: unescape escape? rest
    | none => '\\' :: unescape escape? (c :: rest)
  | c :: rest => c :: unescape escape? rest
  | [] => []

/-- A value without quotes ends before a comment, which needs space in front of it. -/
def dropComment : List Char → List Char
  | [] => []
  | c :: rest =>
    if isSpace c && (match (c :: rest).dropWhile isSpace with | '#' :: _ => true | _ => false) then
      []
    else c :: dropComment rest

/-- Reads a value; what follows it is still to be checked. -/
def value (s : List Char) : Option (List Char × List Char) :=
  match s with
  | '\'' :: rest => (quotedBody '\'' rest).map fun (body, rest) =>
    (unescape singleEscape? body, rest)
  | '"' :: rest => (quotedBody '"' rest).map fun (body, rest) =>
    (unescape doubleEscape? body, rest)
  | _ =>
    some (dropEndWhile isSpace (dropComment (s.takeWhile (!isBreak ·))),
      s.dropWhile (!isBreak ·))

/-- Nothing but a comment may follow a binding on its line. -/
def endOfLine (s : List Char) : Option (List Char) :=
  let s := match skipInner s with
    | '#' :: rest => rest.dropWhile (!isBreak ·)
    | _ => s
  match skipInner s with
  | [] => some []
  | '\r' :: '\n' :: rest => some rest
  | c :: rest => if isBreak c then some rest else none

/-- Passes over the word in front of a name. -/
def skipExport (s : List Char) : List Char :=
  if "export".toList.isPrefixOf s ∧ skipInner (s.drop 6) ≠ s.drop 6 then skipInner (s.drop 6)
  else s

/-- Reads a name, in single quotes or not. A comment has none. -/
def name (s : List Char) : Option (Option (List Char) × List Char) :=
  match s with
  | '#' :: _ => some (none, s)
  | '\'' :: rest =>
    let key := rest.takeWhile (· ≠ '\'')
    match key, rest.dropWhile (· ≠ '\'') with
    | _ :: _, _ :: rest => some (some key, rest)
    | _, _ => none
  | _ =>
    let inName (c : Char) : Bool := c != '=' && c != '#' && !isSpace c
    match s.takeWhile inName with
    | [] => none
    | key => some (some key, s.dropWhile inName)

/-- A binding; a name may stand without a value. -/
structure Binding where
  name : String
  value : Option String

/-- What an optional reading gives, or the place where it fails. -/
def orStop {α : Type} (stop : List Char) : Option α → Except (List Char) α
  | some a => .ok a
  | none => .error stop

/-- Reads a line: its binding, if it has one, and what follows the line. A line that cannot be read
is given up at the place where reading fails. -/
def line (s : List Char) : Except (List Char) (Option Binding × List Char) := do
  let start := skipExport s
  let (key, rest) ← orStop start (name start)
  let rest := skipInner rest
  let (bound, rest) ← match rest with
    | '=' :: rest =>
      let rest := skipInner rest
      (orStop rest (value rest)).map fun (v, rest) => (some v, rest)
    | _ => .ok (none, rest)
  let rest ← orStop rest (endOfLine rest)
  return (key.map fun key => ⟨String.ofList key, bound.map String.ofList⟩, rest)

/-- Reads lines, at most as many as `fuel`. -/
def lines : Nat → List Char → List Binding
  | 0, _ => []
  | fuel + 1, s =>
    match s.dropWhile isSpace with
    | [] => []
    | s =>
      match line s with
      | .ok (some binding, rest) => binding :: lines fuel rest
      | .ok (none, rest) => lines fuel rest
      | .error rest => lines fuel (skipLine rest)

/-- Puts settings in the place of references; `skip` characters of a reference are passed over. -/
def expand (lookup : String → Option String) : Nat → List Char → List Char
  | _, [] => []
  | skip + 1, _ :: rest => expand lookup skip rest
  | 0, '$' :: '\x7b' :: rest =>
    let key := rest.takeWhile fun c => c != '\x7d' && c != ':'
    let value (default : List Char) : List Char :=
      match lookup (String.ofList key) with
      | some v => v.toList
      | none => default
    match rest.drop key.length with
    | '\x7d' :: _ => value [] ++ expand lookup (key.length + 2) ('\x7b' :: rest)
    | ':' :: '-' :: more =>
      let default := more.takeWhile (· ≠ '\x7d')
      if '\x7d' ∈ more then
        value default ++ expand lookup (key.length + default.length + 4) ('\x7b' :: rest)
      else '$' :: expand lookup 0 ('\x7b' :: rest)
    | _ => '$' :: expand lookup 0 ('\x7b' :: rest)
  | 0, c :: rest => c :: expand lookup 0 rest

/-- Settings by name, in the order in which their names first came up. -/
abbrev Settings := List (String × Option String)

/-- Gives a setting its value; the name keeps its place. -/
def Settings.put (settings : Settings) (name : String) (value : Option String) : Settings :=
  if settings.any fun s => s.1 = name then
    settings.map fun s => if s.1 = name then (name, value) else s
  else settings ++ [(name, value)]

/-- Expands bindings in order; a binding sees the ones before it, and behind them `outer`. -/
def resolve (outer : String → Option String) (done : Settings) : List Binding → Settings
  | [] => done
  | b :: rest =>
    let lookup (key : String) : Option String :=
      match done.lookup key with
      | some v => some (v.getD "")
      | none => outer key
    let v := b.value.map fun v => String.ofList (expand lookup 0 v.toList)
    resolve outer (done.put b.name v) rest

/-- The settings of a file. A name without a value takes away what it was given before. -/
def settings (outer : String → Option String) (content : String) : Settings :=
  let s := unifyNewlines content.toList
  resolve outer [] (lines (s.length + 1) s)

/-- The value of a setting, whose name is given in small letters; of several the last counts. -/
def Settings.get? (settings : Settings) (name : String) : Option String :=
  (settings.reverse.find? fun s => Text.lower s.1 = name).bind Prod.snd

end Triage.Dotenv
