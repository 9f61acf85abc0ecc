import Triage.Decimal.Shortest
import Triage.Text.Basic

/-!
# Writing numbers

The notations in which a number's shortest decimal is written. Inside a range of exponents the
digits stand around a point, outside of it one digit stands before the point and a power of ten
follows.
-/

namespace Triage

/-- How decimals are written: positionally while the exponent of the leading digit lies between
`least` and `greatest`, else with an exponent of at least `exponentWidth` digits. -/
structure DecimalNotation where
  least : Int
  greatest : Int
  exponentWidth : Nat

namespace DecimalNotation

/-- The notation of messages and of texts to read again. -/
def plain : DecimalNotation := ⟨-4, 15, 2⟩

/-- The notation of printed reports. -/
def report : DecimalNotation := ⟨-5, 15, 1⟩

/-- Zeros. -/
def zeros (n : Nat) : String := String.ofList (List.replicate n '0')

/-- A decimal above zero. -/
def decimal (style : DecimalNotation) (d : Decimal) : String :=
  let digits := Nat.toDigits 10 d.digits
  let count := digits.length
  let x := d.leading
  if style.least ≤ x ∧ x ≤ style.greatest then
    if x < 0 then "0." ++ zeros ((-x).toNat - 1) ++ String.ofList digits
    else
      let whole := x.toNat + 1
      if count ≤ whole then String.ofList digits ++ zeros (whole - count) ++ ".0"
      else String.ofList (digits.take whole) ++ "." ++ String.ofList (digits.drop whole)
  else
    let fraction := if count ≤ 1 then "" else "." ++ String.ofList (digits.drop 1)
    let size := Text.ofNat x.natAbs
    String.ofList (digits.take 1) ++ fraction ++ "e" ++ (if x < 0 then "-" else "+") ++
      zeros (style.exponentWidth - size.length) ++ size

/-- A number that is finite; `none` for the others. -/
def finite? (style : DecimalNotation) : Binary64 → Option String
  | .finite negative m e =>
    some ((if negative then "-" else "") ++
      (if m = 0 then "0.0" else style.decimal (Decimal.shortest m e)))
  | _ => none

end DecimalNotation

namespace Binary64

/-- The text of a number in messages. -/
def text : Binary64 → String
  | .nan => "nan"
  | .infinite negative => if negative then "-inf" else "inf"
  | x => (DecimalNotation.plain.finite? x).getD ""

end Binary64

end Triage
