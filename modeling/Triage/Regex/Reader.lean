import Triage.Regex.CharSet
import Triage.Regex.Repetition
import Triage.Regex.Alternatives
import Triage.Regex.Group

/-!
# Reading regular expressions

An expression is alternatives of rows of parts. A group that neither captures nor changes a flag
leaves no trace, except that a repetition after it repeats it as a whole.
-/

namespace Triage.Regex

open Text Reading

/-- Passes over a comment that ends with its line. -/
def skipLine : Nat → Reading Unit
  | 0 => pure ()
  | fuel + 1 => do
    match ← take with
    | none | some (.char '\n') => pure ()
    | some _ => skipLine fuel

/-- White space between the parts of a verbose expression. -/
def isFiller (c : Char) : Bool := c == ' ' || (9 ≤ c.toNat && c.toNat ≤ 13)

/-- A character that stands for itself. -/
def literal (flags : Flags) (c : Char) : Piece := .part (.one (.char flags.rule false c.toNat))

/-- Where a reader of a row stands: the flags there, and whether the row starts the expression. -/
structure Spot where
  flags : Flags
  first : Bool

mutual

/-- Reads alternatives up to a closing parenthesis or the end; `top` tells that they are the whole
expression. -/
def rows (top first : Bool) (flags : Flags) : Nat → Reading (List (List Node))
  | 0 => refuse
  | fuel + 1 => do
    let row ← row ⟨flags, top && first⟩ fuel []
    if ← accept '|' then
      let scan ← get
      return row :: (← rows top false (if top then scan.flags else flags) fuel)
    return [row]

/-- Reads a row of parts; `done` holds the latest first. -/
def row (spot : Spot) : Nat → List Piece → Reading (List Node)
  | 0, _ => refuse
  | fuel + 1, done => do
    match ← peek with
    | none | some (.char '|') | some (.char ')') => return done.reverse.flatMap Piece.nodes
    | some .dangling => refuse
    | some (.escape c) =>
      skip
      row spot fuel (.part (← escapeNode spot.flags c) :: done)
    | some (.char c) =>
      skip
      if spot.flags.verbose && isFiller c then row spot fuel done
      else if spot.flags.verbose && c == '#' then
        skipLine (← bound)
        row spot fuel done
      else
        match c with
        | '[' => row spot fuel (.part (← readSet spot.flags) :: done)
        | '?' => row spot fuel (← repeatLast 0 (some 1) done)
        | '*' => row spot fuel (← repeatLast 0 none done)
        | '+' => row spot fuel (← repeatLast 1 none done)
        | '\x7b' =>
          match ← readCounts with
          | some (least, most) => row spot fuel (← repeatLast least most done)
          | none => row spot fuel (literal spot.flags c :: done)
        | '.' => row spot fuel (.part (.one (.any spot.flags.dotAll)) :: done)
        | '^' =>
          let anchor := if spot.flags.multiline then .lineStart else .textStart
          row spot fuel (.part (.anchor anchor) :: done)
        | '$' =>
          let anchor := if spot.flags.multiline then .lineEnd else .lastLineEnd
          row spot fuel (.part (.anchor anchor) :: done)
        | '(' =>
          match ← opening with
          | .comment => row spot fuel done
          | .backref index => row spot fuel (.part (.backref spot.flags.rule index) :: done)
          | .flags (.whole add) =>
            unless spot.first && done.isEmpty do refuse
            let flags ← setFlags add
            row { spot with flags } fuel done
          | .flags (.inside add remove) =>
            let inner ← enclosed (spot.flags.combine add remove) fuel
            row spot fuel
              ((if add.isEmpty && remove.isEmpty then .bundle inner
                else .part (.group none (Node.ofList inner))) :: done)
          | .plain => row spot fuel (.bundle (← enclosed spot.flags fuel) :: done)
          | .atomic =>
            let inner ← enclosed spot.flags fuel
            row spot fuel (.part (.atomic (Node.ofList inner)) :: done)
          | .capture name =>
            let index ← openGroup name
            let body := Node.ofList (← enclosed spot.flags fuel)
            closeGroup index body
            row spot fuel (.part (.group (some index) body) :: done)
          | .ahead negated =>
            let inner ← enclosed spot.flags fuel
            row spot fuel (.part (.ahead negated (Node.ofList inner)) :: done)
          | .behind negated =>
            let before ← get
            let outer := before.lookBehind
            modify fun scan =>
              { scan with lookBehind := some (scan.lookBehind.getD scan.widths.length) }
            let inner ← rows false false spot.flags fuel
            modify fun scan => { scan with lookBehind := outer }
            expect ')'
            row spot fuel (.part (← behindNode negated (Node.ofList (merge inner))) :: done)
          | .conditional =>
            let index ← conditionGroup
            let inside : Spot := ⟨spot.flags, false⟩
            let yes ← row inside fuel []
            let no ← if ← accept '|' then row inside fuel [] else pure []
            expect ')'
            row spot fuel
              (.part (.conditional index (Node.ofList yes) (Node.ofList no)) :: done)
        | c => row spot fuel (literal spot.flags c :: done)

/-- Reads alternatives and the parenthesis that closes them. -/
def enclosed (flags : Flags) : Nat → Reading (List Node)
  | 0 => refuse
  | fuel + 1 => do
    let inner ← rows false false flags fuel
    expect ')'
    return merge inner

end

/-- Reads a whole expression. Faults that only the complete expression shows come last. -/
def whole (fuel : Nat) : Reading Pattern := do
  let node := Node.ofList (merge (← rows true true (← get).flags fuel))
  let scan ← get
  if scan.global.contains .ascii && scan.global.contains .unicode then throw .flagConflict
  if (← peek).isSome then refuse
  if scan.conditions.any (scan.widths.length ≤ ·) then refuse
  if scan.loose || (scan.global.contains .template && scan.repeats) then refuse
  return ⟨node, scan.widths.length - 1, scan.names.reverse⟩

/-- Reads an expression. Each letter accounts for at most three steps.

Two kinds of expressions are left out. One that calls a character by a name or an alias that is not in
`Table.characterNames` is malformed here, though a complete table may have it. And one with groups in
groups to a depth of several hundred is read like any other, though a reader with a bounded stack
gives up on it. -/
def compile (ignoreCase : Bool) (s : String) : Except Fault Pattern :=
  let letters := tokens s.toList
  let flags := { Flags.none with ignoreCase }
  let scan : Scan := ⟨letters, flags, [], [none], [], none, [], false, false⟩
  ((whole (3 * letters.length + 3)).run scan).map Prod.fst

end Triage.Regex
