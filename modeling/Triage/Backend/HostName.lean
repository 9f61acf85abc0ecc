import Triage.Text.Basic
import Triage.Text.Case
import Triage.Text.Table.HostName

/-!
# Names of hosts beyond ASCII

The name of a host is a row of labels between dots. A label with characters beyond ASCII is written
in ASCII: first its ASCII characters, then, for the others in ascending order, how far it is from
each to the next, counted over all places where the next might stand. The distances are numbers of
base 36 whose digits have thresholds that follow the size of the distances before.
-/

namespace Triage.HostName

open Text

/-- A digit of base 36: the letters, then the decimal digits. -/
def digit (n : Nat) : Char := Char.ofNat (if n < 26 then 97 + n else 22 + n)

/-- The threshold of the digit at a place, which counts in steps of 36. -/
def threshold (bias place : Nat) : Nat := max 1 (min 26 (place - bias))

theorem one_le_threshold (bias place : Nat) : 1 ≤ threshold bias place :=
  Nat.le_max_left ..

/-- A distance in digits, the least first; a digit below its threshold is the last one. -/
def digits (bias place q : Nat) : List Char :=
  let t := threshold bias place
  if q < t then [digit q]
  else digit (t + (q - t) % (36 - t)) :: digits bias (place + 36) ((q - t) / (36 - t))
termination_by q
decreasing_by
  have ht := one_le_threshold bias place
  have hq := Nat.div_le_self (q - threshold bias place) (36 - threshold bias place)
  omega

/-- The place at which a distance ends, and what is left of it there. -/
def settle (place delta : Nat) : Nat × Nat :=
  if 455 < delta then settle (place + 36) (delta / 35) else (place, delta)
termination_by delta
decreasing_by omega

/-- The bias after a distance, with the number of characters that have been written by then. -/
def adapt (first : Bool) (delta written : Nat) : Nat :=
  let delta := if first then delta / 700 else delta / 2
  let (place, delta) := settle 0 (delta + delta / written)
  place + 36 * delta / (delta + 38)

/-- How far the writing of a label has come. -/
structure Progress where
  /-- The least code point that has not been dealt with. -/
  point : Nat
  /-- The distance from the character written last. -/
  delta : Nat
  bias : Nat
  written : Nat
  output : List Char

namespace Progress

/-- Meets a character on the way through the label to the places of a code point. -/
def meet (basic point : Nat) (p : Progress) (c : Char) : Progress :=
  if c.toNat < point then { p with delta := p.delta + 1 }
  else if c.toNat = point then
    { p with
      delta := 0
      bias := adapt (p.written = basic) p.delta (p.written + 1)
      written := p.written + 1
      output := p.output ++ digits p.bias 36 p.delta }
  else p

/-- Writes all places of a code point. -/
def advance (label : List Char) (basic : Nat) (p : Progress) (point : Nat) : Progress :=
  let start := { p with delta := p.delta + (point - p.point) * (p.written + 1) }
  let p := label.foldl (meet basic point) start
  { p with point := point + 1, delta := p.delta + 1 }

end Progress

/-- Puts a number into an ascending list, once. -/
def insertOnce (n : Nat) : List Nat → List Nat
  | [] => [n]
  | m :: rest => if n < m then n :: m :: rest else if n = m then m :: rest
    else m :: insertOnce n rest

/-- A label in ASCII, without the mark in front. -/
def encode (label : List Char) : List Char :=
  let basic := label.filter (·.toNat < 128)
  let others := (label.filter (128 ≤ ·.toNat)).map Char.toNat
  let start := if basic = [] then [] else basic ++ ['-']
  (others.foldr insertOnce []).foldl (Progress.advance label basic.length)
    ⟨128, 0, 72, basic.length, start⟩ |>.output

/-- A character may stand in a label. -/
def isProper (c : Char) : Bool :=
  if c.toNat < 128 then isAsciiDigit c || (97 ≤ c.toNat && c.toNat ≤ 122) || c == '-'
  else isNameContinue c && lowerChar c == [c] && !inRanges Table.noHostName c.toNat

/-- A label does not start with a mark that belongs to the character before it, and hyphens are not
at its ends and not at its third and fourth place. -/
def isLabel (label : List Char) : Bool :=
  (match label.head? with
    | some c => c.toNat < 128 || isAlphanumericPoint c.toNat
    | none => false) &&
    label.head? != some '-' && label.getLast? != some '-' &&
    (label.drop 2).take 2 != ['-', '-'] && label.all isProper

/-- A label as it is sent; it has 63 characters at most. -/
def ofLabel? (label : List Char) : Option (List Char) :=
  if isLabel label then
    let sent :=
      if label.all (·.toNat < 128) then label else "xn--".toList ++ encode label
    if sent.length ≤ 63 then some sent else none
  else none

/-- The characters that count as dots. -/
def isDot (c : Char) : Bool := ['.', '。', '．', '｡'].contains c

/-- The labels of a name; one dot at the end is kept. -/
def ofLabels? (labels : List (List Char)) : Option (List (List Char)) :=
  match labels.getLast? with
  | some [] => (labels.dropLast.mapM ofLabel?).map (· ++ [[]])
  | _ => labels.mapM ofLabel?

/-- A name in ASCII; without a dot at its end it has 253 characters at most. -/
def toAscii? (name : String) : Option String := do
  let plain := name.toList.map fun c => if isDot c then '.' else c
  let labels ← ofLabels? (splitChars '.' plain)
  guard (labels ≠ [[]])
  let sent := ['.'].intercalate labels
  guard (sent.length ≤ if labels.getLast? = some [] then 254 else 253)
  return String.ofList sent

end Triage.HostName
