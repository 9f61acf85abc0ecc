/-!
# Regular expressions

An expression is a tree. What the letters of its written form leave open (whether case counts,
whether a class means ASCII alone, whether a line end is a place to stop) is settled in the tree, so
matching needs no flags.

Every part says how many characters it can consume, see `Node.width`; only parts of one fixed width
may stand in a look behind.
-/

namespace Triage.Regex

/-- Whether the case of letters counts. -/
inductive CaseRule where
  | exact
  | ignoreAscii
  | ignore
  deriving DecidableEq, Repr

/-- The named classes of characters. -/
inductive CharKind where
  | digit
  | space
  | word
  deriving DecidableEq, Repr

/-- A member of a set of characters; characters are given by their code points. -/
inductive SetItem where
  | char (n : Nat)
  | range (low high : Nat)
  | named (kind : CharKind) (ascii negated : Bool)
  deriving DecidableEq, Repr

/-- A test on one character. -/
inductive CharTest where
  | any (newline : Bool)
  | char (rule : CaseRule) (negated : Bool) (n : Nat)
  | set (rule : CaseRule) (negated : Bool) (items : List SetItem)
  deriving DecidableEq, Repr

/-- A condition on a place in the text. -/
inductive Anchor where
  | textStart
  | lineStart
  | textEnd
  | lastLineEnd
  | lineEnd
  | boundary (ascii negated : Bool)
  deriving DecidableEq, Repr

/-- How a repetition chooses among its counts. -/
inductive Greed where
  | greedy
  | lazy
  | possessive
  deriving DecidableEq, Repr

/-- A regular expression. `group none` sets a part apart without capturing it. -/
inductive Node where
  | empty
  | one (test : CharTest)
  | anchor (anchor : Anchor)
  | backref (rule : CaseRule) (group : Nat)
  | seq (first second : Node)
  | alt (first second : Node)
  | fail
  | group (index : Option Nat) (body : Node)
  | loop (greed : Greed) (least : Nat) (most : Option Nat) (body : Node)
  | atomic (body : Node)
  | ahead (negated : Bool) (body : Node)
  | behind (negated : Bool) (width : Nat) (body : Node)
  | conditional (group : Nat) (yes no : Node)
  deriving Repr

/-- An expression with its number of groups and the names of some of them, in order. -/
structure Pattern where
  node : Node
  groups : Nat
  names : List (String × Nat)
  deriving Repr

namespace Node

/-- The parts one after another. -/
def ofList : List Node → Node
  | [] => .empty
  | [node] => node
  | node :: rest => .seq node (ofList rest)

/-- The parts as alternatives, the first one preferred. -/
def ofAlternatives : List (List Node) → Node
  | [] => .fail
  | [nodes] => ofList nodes
  | nodes :: rest => .alt (ofList nodes) (ofAlternatives rest)

/-- A width that stands for every one from it on. -/
def widthLimit : Nat := Nat.pow 2 64

/-- The least and the greatest number of characters consumed; `groups` tells those of the groups
that are complete. -/
def width (groups : Nat → Nat × Nat) (node : Node) : Nat × Nat :=
  let bound (w : Nat × Nat) : Nat × Nat := (min w.1 widthLimit, min w.2 widthLimit)
  match node with
  | .empty | .anchor _ | .ahead .. | .behind .. => (0, 0)
  | .one _ => (1, 1)
  | .backref _ index => groups index
  | .seq a b =>
    let x := a.width groups
    let y := b.width groups
    bound (x.1 + y.1, x.2 + y.2)
  | .alt a b =>
    let x := a.width groups
    let y := b.width groups
    (min x.1 y.1, max x.2 y.2)
  | .fail => (widthLimit, 0)
  | .group _ body | .atomic body => body.width groups
  | .loop _ least most body =>
    let x := body.width groups
    let greatest := match most with
      | some most => x.2 * most
      | none => if x.2 = 0 then 0 else widthLimit
    bound (x.1 * least, greatest)
  | .conditional _ yes no =>
    let x := yes.width groups
    let y := no.width groups
    (min x.1 y.1, max x.2 y.2)

end Node

end Triage.Regex
