/-
Points in time and their textual form.

A time is a number of microseconds since the start of 1970 in UTC, the resolution of
the clock.  Artifacts carry times as text with a resolution of one second.
-/
import Mathlib.Data.Int.Notation
import Mathlib.Data.Nat.Notation

namespace ControlPlane

/-- Microseconds since 1970-01-01T00:00:00Z. -/
abbrev Time := Nat

namespace Time

/-- One second. -/
def second : Time := 1000000

/-- The moments that a `datetime` in UTC can hold, in microseconds since 1970: from the first of
the year 1 to the last of the year 9999. -/
def isDatetime (microseconds : Int) : Bool :=
  -62135596800000000 ≤ microseconds && microseconds < 253402300800000000

/-- `replace(microsecond=0)`. -/
def truncate (t : Time) : Time := t / second * second

/-- Year, month and day of the number of days since 1970-01-01. -/
def civil (days : Nat) : Nat × Nat × Nat :=
  let z := days + 719468
  let era := z / 146097
  let dayOfEra := z % 146097
  let yearOfEra := (dayOfEra - dayOfEra / 1460 + dayOfEra / 36524 - dayOfEra / 146096) / 365
  let dayOfYear := dayOfEra - (365 * yearOfEra + yearOfEra / 4 - yearOfEra / 100)
  let marchMonth := (5 * dayOfYear + 2) / 153
  let day := dayOfYear - (153 * marchMonth + 2) / 5 + 1
  let month := if marchMonth < 10 then marchMonth + 3 else marchMonth - 9
  let year := yearOfEra + era * 400 + (if month ≤ 2 then 1 else 0)
  (year, month, day)

/-- A decimal number with leading zeros. -/
def pad (width n : Nat) : String :=
  String.ofList (List.replicate (width - (Nat.toDigits 10 n).length) '0' ++ Nat.toDigits 10 n)

/-- Date and time of day, with a resolution of one second. -/
def dateTime (t : Time) : String :=
  let seconds := t / second
  let (year, month, day) := civil (seconds / 86400)
  pad 4 year ++ "-" ++ pad 2 month ++ "-" ++ pad 2 day ++ "T"
    ++ pad 2 (seconds % 86400 / 3600) ++ ":" ++ pad 2 (seconds % 3600 / 60) ++ ":"
    ++ pad 2 (seconds % 60)

/-- RFC 3339 text in UTC, with a resolution of one second. -/
def format (t : Time) : String := dateTime t ++ "Z"

/-- `datetime.isoformat()` of a time in UTC. -/
def isoformat (t : Time) : String :=
  dateTime t ++ (if t % second = 0 then "" else "." ++ pad 6 (t % second)) ++ "+00:00"

example : format 1780747200000000 = "2026-06-06T12:00:00Z" := by decide

theorem isDatetime_natCast {t : Time} : isDatetime t = true ↔ t < 253402300800000000 := by
  have hfirst : (-62135596800000000 : Int) ≤ (t : Nat) := by omega
  rw [isDatetime, decide_eq_true hfirst, Bool.true_and, decide_eq_true_eq]
  exact Int.ofNat_lt

theorem isDatetime_of_le {s t : Time} (h : s ≤ t) (ht : isDatetime t = true) :
    isDatetime s = true :=
  isDatetime_natCast.mpr (Nat.lt_of_le_of_lt h (isDatetime_natCast.mp ht))

theorem truncate_le (t : Time) : truncate t ≤ t := Nat.div_mul_le_self t second

end Time

end ControlPlane
