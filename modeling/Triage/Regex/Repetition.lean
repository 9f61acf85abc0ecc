import Triage.Regex.Reading

/-!
# Repetitions

A repetition repeats the piece before it: by a sign, or by counts between braces. Braces that hold no
counts stand for themselves.
-/

namespace Triage.Regex

open Text Reading

/-- A repetition count must stay below this. -/
def countLimit : Nat := 4294967295

/-- The most digits that a count may have. -/
def countDigits : Nat := 4300

/-- The value of a count; without digits there is none. -/
def countOf (digits : List Char) : Reading (Option Nat) := do
  if digits = [] then return none
  if countDigits < digits.length then throw (.countTooLong digits.length)
  let n := natOfDigits digits
  if countLimit ≤ n then throw .countTooLarge
  return some n

/-- Reads counts after an opening brace. What is no count is put back, and the brace stands for
itself. -/
def readCounts : Reading (Option (Nat × Option Nat)) := do
  let before ← get
  if (← peek) = some (.char '\x7d') then return none
  let low ← takeChars isAsciiDigit (← bound)
  let high ← if ← accept ',' then takeChars isAsciiDigit (← bound) else pure low
  if ← accept '\x7d' then
    let least ← countOf low
    let most ← countOf high
    match most with
    | some most => if most < least.getD 0 then refuse
    | none => pure ()
    return some (least.getD 0, most)
  set before
  return none

/-- What stands in a row of parts: a part, or a group that only holds parts together. -/
inductive Piece where
  | part (node : Node)
  | bundle (nodes : List Node)

/-- The parts of a row. -/
def Piece.nodes : Piece → List Node
  | .part node => [node]
  | .bundle nodes => nodes

/-- What a repetition after a piece repeats; an anchor or a repetition cannot be repeated. -/
def Piece.repeatable? : Piece → Option Node
  | .part (.anchor _) | .part (.loop ..) => none
  | .part node => some node
  | .bundle nodes => some (Node.ofList nodes)

/-- How a repetition is tried, by the sign behind it. -/
def greed : Reading Greed := do
  match ← peek with
  | some (.char '?') =>
    skip
    return .lazy
  | some (.char '+') =>
    skip
    return .possessive
  | _ => return .greedy

/-- Repeats the latest piece. -/
def repeatLast (least : Nat) (most : Option Nat) (done : List Piece) : Reading (List Piece) := do
  match done with
  | [] => refuse
  | piece :: done =>
    match piece.repeatable? with
    | none => refuse
    | some node =>
      let greed ← greed
      modify fun scan => { scan with repeats := true }
      return .part (.loop greed least most node) :: done

end Triage.Regex
