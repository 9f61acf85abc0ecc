/-!
# Binary numbers of double precision

A number is kept as what it is exactly: a sign, a whole mantissa below 2^53 and a power of two of at
least 2^-1074, or one of the infinities, or no number at all. Everything the library does with a
number (rounding a quotient to it, comparing, adding, asking for its whole value) is arithmetic on
whole numbers.
-/

namespace Triage

/-- A number of the binary64 format. In `finite` the value is `mantissa * 2 ^ exponent`, negated
where `negative`; zero keeps its sign. -/
inductive Binary64 where
  | nan
  | infinite (negative : Bool)
  | finite (negative : Bool) (mantissa : Nat) (exponent : Int)
  deriving DecidableEq, Repr, Inhabited

namespace Binary64

/-- The least exponent; the numbers below the normal range are spaced by this power of two. -/
def leastExponent : Int := -1074

/-- The greatest exponent of a finite number. -/
def greatestExponent : Int := 971

/-- A quotient rounded to the nearest whole number, a half to the even one. -/
def roundQuotient (num den : Nat) : Nat :=
  let q := num / den
  let r := num % den
  if 2 * r < den then q else if den < 2 * r then q + 1 else q + q % 2

/-- Numerator and denominator of `num / (den * 2 ^ e)`. -/
def scale (num den : Nat) (e : Int) : Nat × Nat :=
  if 0 ≤ e then (num, den * Nat.pow 2 e.toNat) else (num * Nat.pow 2 (-e).toNat, den)

/-- The exponent at which `num / den` has a mantissa of 53 bits, or the least one. -/
def exponentFor (num den : Nat) : Int :=
  let e := max ((num.log2 : Int) - den.log2 - 53) leastExponent
  let (n, d) := scale num den e
  if n / d < Nat.pow 2 53 then e else e + 1

/-- Puts a mantissa of at most 2^53 into its proper form. -/
def pack (negative : Bool) (mantissa : Nat) (e : Int) : Binary64 :=
  let (m, e) := if mantissa = Nat.pow 2 53 then (Nat.pow 2 52, e + 1) else (mantissa, e)
  if greatestExponent < e then .infinite negative else .finite negative m e

/-- The number nearest to `num / den`, of two equally near ones the even one; a quotient beyond the
greatest finite number gives an infinity. -/
def ofRatio (negative : Bool) (num den : Nat) : Binary64 :=
  if num = 0 then .finite negative 0 leastExponent
  else
    let e := exponentFor num den
    let (n, d) := scale num den e
    pack negative (roundQuotient n d) e

/-- The number nearest to a whole number. -/
def ofInt (n : Int) : Binary64 := ofRatio (n < 0) n.natAbs 1

/-- The number nearest to `digits * 10 ^ exponent`. Beyond the decimal exponents of the format the
answer is known without computing the power. -/
def ofDecimal (negative : Bool) (digits : Nat) (exponent : Int) : Binary64 :=
  let width := (Nat.toDigits 10 digits).length
  if digits = 0 then .finite negative 0 leastExponent
  else if 400 < exponent + width then .infinite negative
  else if exponent + width < -400 then .finite negative 0 leastExponent
  else if 0 ≤ exponent then ofRatio negative (digits * Nat.pow 10 exponent.toNat) 1
  else ofRatio negative digits (Nat.pow 10 (-exponent).toNat)

/-- A finite number as a whole multiple of `2 ^ e`, for an `e` not above its exponent. -/
def multiple (negative : Bool) (mantissa : Nat) (exponent e : Int) : Int :=
  let m : Int := (mantissa * Nat.pow 2 (exponent - e).toNat : Nat)
  if negative then -m else m

/-- The finite number nearest to `n * 2 ^ e`. -/
def ofMultiple (n e : Int) : Binary64 :=
  if 0 ≤ e then ofRatio (n < 0) (n.natAbs * Nat.pow 2 e.toNat) 1
  else ofRatio (n < 0) n.natAbs (Nat.pow 2 (-e).toNat)

/-- `x` is less than `y`; never where one of them is no number. -/
def lt : Binary64 → Binary64 → Bool
  | .nan, _ | _, .nan => false
  | .infinite a, .infinite b => a && !b
  | .infinite a, .finite .. => a
  | .finite .., .infinite b => !b
  | .finite s m e, .finite s' m' e' =>
    multiple s m e (min e e') < multiple s' m' e' (min e e')

/-- `x` equals `y` as a number, whatever the sign of a zero. -/
def eqv : Binary64 → Binary64 → Bool
  | .nan, _ | _, .nan => false
  | .infinite a, .infinite b => a == b
  | .finite s m e, .finite s' m' e' =>
    multiple s m e (min e e') == multiple s' m' e' (min e e')
  | _, _ => false

/-- `x` is at most `y`; never where one of them is no number. -/
def le (x y : Binary64) : Bool := lt x y || eqv x y

/-- The sum, rounded once. -/
def add : Binary64 → Binary64 → Binary64
  | .nan, _ | _, .nan => .nan
  | .infinite a, .infinite b => if a = b then .infinite a else .nan
  | .infinite a, .finite .. => .infinite a
  | .finite .., .infinite b => .infinite b
  | .finite s m e, .finite s' m' e' =>
    let low := min e e'
    ofMultiple (multiple s m e low + multiple s' m' e' low) low

/-- The whole number that a number is, if it is one. -/
def toInt? : Binary64 → Option Int
  | .finite negative m e =>
    let size : Option Nat :=
      if 0 ≤ e then some (m * Nat.pow 2 e.toNat)
      else if m % Nat.pow 2 (-e).toNat = 0 then some (m / Nat.pow 2 (-e).toNat) else none
    size.map fun n => if negative then -(n : Int) else n
  | _ => none

/-- Neither an infinity nor no number. -/
def isFinite : Binary64 → Bool
  | .finite .. => true
  | _ => false

/-- The number zero. -/
def zero : Binary64 := .finite false 0 leastExponent

/-- The number one. -/
def one : Binary64 := ofInt 1

end Binary64

end Triage
