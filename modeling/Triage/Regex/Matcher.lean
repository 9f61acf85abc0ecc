import Triage.Regex.CharTest

/-!
# Matching

`Node.run` tries the ways in which an expression matches at a place, in order of preference, and
hands each to the rest of the work until that accepts one; so the first way that lets the whole
succeed is the one found. What a group captured is kept in the place and is undone with it.

A loop may not go round again from the place where its last free turn began, so a body that consumes
nothing is tried once and no loop runs for ever.
-/

namespace Triage.Regex

/-- A place in the text with what has been captured on the way: where groups started and ended. -/
structure Place where
  pos : Nat
  starts : List (Nat × Nat)
  ends : List (Nat × Nat)
  deriving Repr, DecidableEq

/-- Replaces an entry of a list of entries. -/
def record (index pos : Nat) (entries : List (Nat × Nat)) : List (Nat × Nat) :=
  (index, pos) :: entries.filter fun e => e.1 ≠ index

namespace Place

/-- The start and the end of what a group captured. -/
def span? (place : Place) (index : Nat) : Option (Nat × Nat) :=
  match place.starts.lookup index, place.ends.lookup index with
  | some a, some b => if a ≤ b then some (a, b) else none
  | _, _ => none

end Place

/-- A way to go on from a place. -/
abbrev Next := Place → Option Place

/-- Both sides of the place hold a word and no word, or the other way round. -/
def atBoundary (text : Array Char) (ascii : Bool) (pos : Nat) : Bool :=
  let word (c : Option Char) : Bool :=
    match c with
    | some c => CharKind.word.holds ascii c.toNat
    | none => false
  word (if pos = 0 then none else text[pos - 1]?) != word text[pos]?

/-- The place satisfies an anchor. A text without characters has neither a boundary nor a place
that is none. -/
def Anchor.holds (text : Array Char) (pos : Nat) : Anchor → Bool
  | .textStart => pos == 0
  | .lineStart => pos == 0 || text[pos - 1]? == some '\n'
  | .textEnd => pos == text.size
  | .lastLineEnd => pos == text.size || (pos + 1 == text.size && text[pos]? == some '\n')
  | .lineEnd => pos == text.size || text[pos]? == some '\n'
  | .boundary ascii negated => text.size != 0 && atBoundary text ascii pos != negated

/-- The text from `a` to `b` stands again at `pos`, where case may be ignored. -/
def repeats (text : Array Char) (rule : CaseRule) (a b pos : Nat) : Bool :=
  (List.range (b - a)).all fun i =>
    match text[a + i]?, text[pos + i]? with
    | some c, some d => rule.fold c.toNat == rule.fold d.toNat
    | _, _ => false

/-- One more turn is allowed by the greatest count. -/
def mayTurn (most : Option Nat) (count : Nat) : Bool :=
  match most with
  | some most => count < most
  | none => true

/-- As many turns as possible first; `last` is where the last free turn began. -/
def greedy (body : Place → Next → Option Place) (least : Nat) (most : Option Nat) (next : Next) :
    Nat → Nat → Option Nat → Place → Option Place
  | 0, _, _, _ => none
  | fuel + 1, count, last, place =>
    if count < least then body place (greedy body least most next fuel (count + 1) last)
    else if mayTurn most count ∧ last ≠ some place.pos then
      match body place (greedy body least most next fuel (count + 1) (some place.pos)) with
      | some found => some found
      | none => next place
    else next place

/-- As few turns as possible first. -/
def lazily (body : Place → Next → Option Place) (least : Nat) (most : Option Nat) (next : Next) :
    Nat → Nat → Option Nat → Place → Option Place
  | 0, _, _, _ => none
  | fuel + 1, count, last, place =>
    if count < least then body place (lazily body least most next fuel (count + 1) last)
    else
      match next place with
      | some found => some found
      | none =>
        if mayTurn most count ∧ last ≠ some place.pos then
          body place (lazily body least most next fuel (count + 1) (some place.pos))
        else none

/-- As many turns as possible and no fewer, each in its first way. -/
def possessively (body : Place → Next → Option Place) (least : Nat) (most : Option Nat) :
    Nat → Nat → Option Nat → Place → Option Place
  | 0, _, _, place => some place
  | fuel + 1, count, last, place =>
    if count < least then
      (body place some).bind (possessively body least most fuel (count + 1) last)
    else if mayTurn most count ∧ last ≠ some place.pos then
      match body place some with
      | some after => possessively body least most fuel (count + 1) (some place.pos) after
      | none => some place
    else some place

/-- The first way to match at a place from which the rest succeeds. -/
def Node.run (text : Array Char) : Node → Place → Next → Option Place
  | .empty, place, next => next place
  | .fail, _, _ => none
  | .one test, place, next =>
    match text[place.pos]? with
    | some c => if test.holds c then next { place with pos := place.pos + 1 } else none
    | none => none
  | .anchor spot, place, next => if spot.holds text place.pos then next place else none
  | .backref rule index, place, next =>
    match place.span? index with
    | some (a, b) =>
      if repeats text rule a b place.pos then next { place with pos := place.pos + (b - a) }
      else none
    | none => none
  | .seq first second, place, next => first.run text place fun place => second.run text place next
  | .alt first second, place, next =>
    match first.run text place next with
    | some found => some found
    | none => second.run text place next
  | .group none body, place, next => body.run text place next
  | .group (some index) body, place, next =>
    body.run text { place with starts := record index place.pos place.starts } fun place =>
      next { place with ends := record index place.pos place.ends }
  | .loop .greedy least most body, place, next =>
    greedy (body.run text) least most next (least + (text.size - place.pos) + 2) 0 none place
  | .loop .lazy least most body, place, next =>
    lazily (body.run text) least most next (least + (text.size - place.pos) + 2) 0 none place
  | .loop .possessive least most body, place, next =>
    (possessively (body.run text) least most (least + (text.size - place.pos) + 2) 0 none
      place).bind next
  | .atomic body, place, next => (body.run text place some).bind next
  | .ahead negated body, place, next =>
    match body.run text place some with
    | some found => if negated then none else next { found with pos := place.pos }
    | none => if negated then next place else none
  | .behind negated width body, place, next =>
    if place.pos < width then (if negated then next place else none)
    else
      match body.run text { place with pos := place.pos - width } some with
      | some found => if negated then none else next { found with pos := place.pos }
      | none => if negated then next place else none
  | .conditional index yes no, place, next =>
    match place.span? index with
    | some _ => yes.run text place next
    | none => no.run text place next

/-- A match: where it starts and ends, and what the groups captured. -/
structure Match where
  start : Nat
  stop : Nat
  place : Place

/-- The first match that starts at `pos` or later, `count` places tried. -/
def searchFrom (text : Array Char) (node : Node) : Nat → Nat → Option Match
  | 0, _ => none
  | count + 1, pos =>
    match node.run text ⟨pos, [], []⟩ some with
    | some found => some ⟨pos, found.pos, found⟩
    | none => searchFrom text node count (pos + 1)

/-- The first match in a text. -/
def Pattern.search? (pattern : Pattern) (text : String) : Option Match :=
  let text := text.toList.toArray
  searchFrom text pattern.node (text.size + 1) 0

/-- What a group captured; group zero is the whole match. -/
def Match.group? (m : Match) (text : String) (index : Nat) : Option String :=
  let slice (a b : Nat) : String := String.ofList ((text.toList.drop a).take (b - a))
  if index = 0 then some (slice m.start m.stop)
  else (m.place.span? index).map fun (a, b) => slice a b

end Triage.Regex
