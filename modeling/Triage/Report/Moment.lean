import Std.Time.Date
import Triage.Text.Basic

/-!
# Moments

The moment at which a report is made, as the report names it: the day and the time of day in
universal time, down to the microsecond. A whole second has no fraction.
-/

namespace Triage

/-- A moment, by the microseconds since the beginning of the year 1970. -/
structure Moment where
  microseconds : Nat
  deriving DecidableEq, Repr

namespace Moment

/-- A number of at least `width` digits. -/
def padded (width n : Nat) : String :=
  let digits := Text.ofNat n
  String.ofList (List.replicate (width - digits.length) '0') ++ digits

/-- The seconds since the beginning of 1970 that are over. -/
def seconds (m : Moment) : Nat := m.microseconds / 1000000

/-- The day of a moment. -/
def day (m : Moment) : String :=
  let date := Std.Time.PlainDate.ofEpochDay ⟨m.seconds / 86400⟩
  Text.join "-"
    [padded 4 date.year.toInt.toNat, padded 2 date.month.toNat, padded 2 date.day.toNat]

/-- The time of day of a moment, to the second. -/
def timeOfDay (m : Moment) : String :=
  let second := m.seconds % 86400
  Text.join ":" [padded 2 (second / 3600), padded 2 (second / 60 % 60), padded 2 (second % 60)]

/-- What is over of the second that has begun. -/
def fraction (m : Moment) : String :=
  let part := m.microseconds % 1000000
  if part = 0 then "" else "." ++ padded 6 part

/-- A moment as text. -/
def text (m : Moment) : String := m.day ++ "T" ++ m.timeOfDay ++ m.fraction ++ "Z"

end Moment

end Triage
