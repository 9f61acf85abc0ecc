import Triage.Regex.Basic

/-!
# Alternatives

Alternatives that start alike share their start, and those that are all one character or one set of
characters become one set.
-/

namespace Triage.Regex

/-- Two parts that match in one way at most, and alike. -/
def sameStep : Node → Node → Bool
  | .one a, .one b => a == b
  | .anchor a, .anchor b => a == b
  | .backref rule index, .backref rule' index' => rule == rule' && index == index'
  | _, _ => false

/-- Takes the first part off every row. -/
def dropHeads (rows : List (List Node)) : List (List Node) := rows.map List.tail

/-- Takes off the parts that all rows begin with; `first` is the first row. -/
def commonStart : List Node → List (List Node) → List Node × List (List Node)
  | [], rows => ([], rows)
  | node :: first, rows =>
    let shared := rows.all fun row =>
      match row with
      | [] => false
      | head :: _ => sameStep node head
    if shared then
      let (start, rows) := commonStart first (dropHeads rows)
      (node :: start, rows)
    else ([], rows)

/-- The members that a row of one part adds to a set. -/
def memberItems? : List Node → Option (CaseRule × List SetItem)
  | [.one (.char rule false n)] => some (rule, [.char n])
  | [.one (.set rule false items)] => some (rule, items)
  | _ => none

/-- Several rows as one set, where each is one character or one set. -/
def mergedSet? (rows : List (List Node)) : Option Node :=
  match rows.mapM memberItems? with
  | some ((rule, items) :: more) =>
    some (.one (.set rule false (items ++ more.flatMap Prod.snd).eraseDups))
  | _ => none

/-- Rows of parts as alternatives. -/
def merge (rows : List (List Node)) : List Node :=
  match rows with
  | [row] => row
  | rows =>
    let (start, rows) := commonStart (rows.headD []) rows
    start ++ [(mergedSet? rows).getD (Node.ofAlternatives rows)]

end Triage.Regex
