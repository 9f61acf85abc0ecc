import Triage.Regex.Basic
import Triage.Text.Case
import Triage.Text.CharClass

/-!
# Testing one character

Where case is ignored two characters agree when their lower cases do, or when those are listed as
equal. A set ignores case as a whole: if any of its members has case, a character is tested by its
lower case against the lower cases of all members.
-/

namespace Triage.Regex

open Text

/-- The last code point of the basic plane. -/
def lastBasic : Nat := 0xffff

/-- The character changes with case. -/
def isCased (n : Nat) : Bool := lowerPoint n != n || upperPoint n != n

/-- Some code point of the range belongs to the run. -/
def runMeets (low high : Nat) (run : Table.Run) : Bool :=
  let first :=
    if low ≤ run.first then run.first
    else run.first + (low - run.first + run.step - 1) / run.step * run.step
  first ≤ run.last && first ≤ high

/-- Some character of the range changes with case. -/
def someCased (low high : Nat) : Bool :=
  (low ≤ 90 && 65 ≤ high) || (low ≤ 122 && 97 ≤ high) ||
    Table.lower.any (runMeets low high) || Table.upper.any (runMeets low high)

/-- Lower case under a rule. -/
def CaseRule.fold : CaseRule → Nat → Nat
  | .exact, n => n
  | .ignoreAscii, n => asciiLowerPoint n
  | .ignore, n => lowerPoint n

/-- The characters that equal a lower case one under a rule, besides itself. -/
def CaseRule.partners : CaseRule → Nat → List Nat
  | .ignore, n => equalCase n
  | _, _ => []

/-- The character changes with case under a rule. -/
def CaseRule.cased : CaseRule → Nat → Bool
  | .exact, _ => false
  | .ignoreAscii, n => isAsciiLetterPoint n
  | .ignore, n => isCased n

/-- `x` is the character `n` under a rule. -/
def CaseRule.same (rule : CaseRule) (n x : Nat) : Bool :=
  if rule.cased n then
    let low := rule.fold n
    rule.fold x == low || (rule.partners low).contains (rule.fold x)
  else x == n

/-- A member of a class of characters. -/
def CharKind.holds (kind : CharKind) (ascii : Bool) (n : Nat) : Bool :=
  match kind with
  | .digit => if ascii then isAsciiDigitPoint n else isDecimalPoint n
  | .space => if ascii then (9 ≤ n && n ≤ 13) || n == 32 else isSpacePoint n
  | .word =>
    if ascii then isAsciiLetterPoint n || isAsciiDigitPoint n || n == 95 else isWordPoint n

/-- A code point is a member as it stands. -/
def SetItem.holds (x : Nat) : SetItem → Bool
  | .char n => x == n
  | .range low high => low ≤ x && x ≤ high
  | .named kind ascii negated => kind.holds ascii x != negated

/-- The code points whose lower case is `n`. -/
def lowerSources (n : Nat) : List Nat :=
  (if lowerPoint n = n then [n] else []) ++
    (if 97 ≤ n ∧ n ≤ 122 then [n - 32] else []) ++
    Table.lower.filterMap fun run =>
      let source := ((n : Int) - run.shift).toNat
      if run.first ≤ source && source ≤ run.last && (source - run.first) % run.step == 0 then
        some source
      else none

/-- The code points whose lower case is `n` under a rule. -/
def CaseRule.sources : CaseRule → Nat → List Nat
  | .ignoreAscii, n =>
    (if 65 ≤ n ∧ n ≤ 90 then [] else [n]) ++ (if 97 ≤ n ∧ n ≤ 122 then [n - 32] else [])
  | .ignore, n => lowerSources n
  | .exact, n => [n]

/-- A lower case code point is a member, as far as the lower cases of members go. Members beyond
the basic plane are taken as they stand. -/
def SetItem.holdsFolded (rule : CaseRule) (x : Nat) : SetItem → Bool
  | .char n =>
    if n ≤ lastBasic then
      rule.fold n == x || (rule.partners (rule.fold n)).contains x
    else x == n
  | .range low high =>
    (low ≤ x && x ≤ high && (x ≤ lastBasic || lastBasic < high) && rule.fold x == x) ||
      (lastBasic < high && low ≤ upperPoint x && upperPoint x ≤ high) ||
      (x :: rule.partners x).any fun y =>
        (rule.sources y).any fun source => low ≤ source && source ≤ high && source ≤ lastBasic
  | .named kind ascii negated => kind.holds ascii x != negated

/-- A member of a set changes with case. -/
def SetItem.cased (rule : CaseRule) : SetItem → Bool
  | .char n => rule.cased n || lastBasic < n
  | .range low high =>
    lastBasic < high ||
      match rule with
      | .exact => false
      | .ignoreAscii => (low ≤ 90 && 65 ≤ high) || (low ≤ 122 && 97 ≤ high)
      | .ignore => someCased low high
  | .named .. => false

/-- A code point is in a set. -/
def inSet (rule : CaseRule) (items : List SetItem) (x : Nat) : Bool :=
  if rule ≠ .exact ∧ items.any (SetItem.cased rule) then
    items.any (SetItem.holdsFolded rule (rule.fold x))
  else items.any (SetItem.holds x)

/-- A character passes a test. -/
def CharTest.holds (c : Char) : CharTest → Bool
  | .any newline => newline || c != '\n'
  | .char rule negated n => rule.same n c.toNat != negated
  | .set rule negated items => inSet rule items c.toNat != negated

end Triage.Regex
