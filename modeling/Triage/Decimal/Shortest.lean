import Triage.Decimal.Binary64

/-!
# Shortest decimals

Of all decimals that read back as a given number the shortest are the ones to write, and of these
the one nearest to the number. The reals that round to `m * 2 ^ e` form an interval around it, whose
ends belong to it exactly when `m` is even. For one digit, two digits and so on up to seventeen the
two neighbours of the number on the grid of decimals with that many digits are tried: if any point
of the grid lies in the interval, one of the neighbours does.
-/

namespace Triage

/-- The decimal `digits * 10 ^ exponent`. -/
structure Decimal where
  digits : Nat
  exponent : Int
  deriving DecidableEq, Repr

namespace Decimal

/-- The exponent of the leading digit. -/
def leading (d : Decimal) : Int := d.exponent + (Nat.toDigits 10 d.digits).length - 1

/-- Drops zeros at the end of the digits; `fuel` bounds how many. -/
def dropZeros : Nat → Decimal → Decimal
  | 0, d => d
  | fuel + 1, d =>
    if d.digits ≠ 0 ∧ d.digits % 10 = 0 then dropZeros fuel ⟨d.digits / 10, d.exponent + 1⟩ else d

/-- The interval of the reals that round to a number, in quarters of its last place: every one of
`low`, `middle` and `high` stands for itself times `num / den`. -/
structure Interval where
  low : Nat
  middle : Nat
  high : Nat
  closed : Bool
  num : Nat
  den : Nat

/-- The interval of `m * 2 ^ e`. Below a power of two the numbers stand twice as close. -/
def interval (m : Nat) (e : Int) : Interval :=
  let tight := m = Nat.pow 2 52 ∧ Binary64.leastExponent < e
  let unit := e - 2
  { low := if tight then 4 * m - 1 else 4 * m - 2
    middle := 4 * m
    high := 4 * m + 2
    closed := m % 2 == 0
    num := if 0 ≤ unit then Nat.pow 2 unit.toNat else 1
    den := if 0 ≤ unit then 1 else Nat.pow 2 (-unit).toNat }

/-- Numerator and denominator of the grid of step `10 ^ k`, seen from the interval's unit. -/
def Interval.grid (i : Interval) (k : Int) : Nat × Nat :=
  if 0 ≤ k then (i.num, i.den * Nat.pow 10 k.toNat) else (i.num * Nat.pow 10 (-k).toNat, i.den)

/-- The point `q * 10 ^ k` lies in the interval. -/
def Interval.holds (i : Interval) (k : Int) (q : Nat) : Bool :=
  let (num, den) := i.grid k
  let x := q * den
  if i.closed then i.low * num ≤ x && x ≤ i.high * num else i.low * num < x && x < i.high * num

/-- The neighbour on the grid of step `10 ^ k` that lies in the interval; of two the nearer one, and
of two equally near the even one. -/
def Interval.neighbour? (i : Interval) (k : Int) : Option Nat :=
  let (num, den) := i.grid k
  let q := i.middle * num / den
  match i.holds k q, i.holds k (q + 1) with
  | true, true =>
    let below := i.middle * num - q * den
    let above := (q + 1) * den - i.middle * num
    some (if below < above then q else if above < below then q + 1 else q + q % 2)
  | true, false => some q
  | false, true => some (q + 1)
  | false, false => none

/-- One more than the exponent of the leading digit of the number in the middle. -/
def Interval.width (i : Interval) : Int :=
  ((Nat.toDigits 10 (i.middle * i.num * Nat.pow 10 350 / i.den)).length : Int) - 350

/-- Tries grids of more and more digits, `tries` of them; the last resort is never needed. -/
def Interval.search (i : Interval) : Nat → Int → Decimal
  | 0, k => ⟨(i.neighbour? k).getD 0, k⟩
  | tries + 1, k =>
    match i.neighbour? k with
    | some q => ⟨q, k⟩
    | none => i.search tries (k - 1)

/-- The shortest decimal that reads back as `m * 2 ^ e`, for a mantissa above zero. -/
def shortest (m : Nat) (e : Int) : Decimal :=
  let i := interval m e
  dropZeros 20 (i.search 17 (i.width - 1))

end Decimal

end Triage
