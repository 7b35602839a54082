/-
Reading ISO 8601 text: `datetime.fromisoformat`, as Python 3.12 has it.

The text is a date, a separator of one character, a time of day and an offset; the last
three may be missing.  Dates are calendar dates or week dates, with or without dashes.
A result is a local time, which may be before 1970, and an offset from UTC when the text
gives one.

The reader goes over the bytes of the text, which end with a zero that belongs to them, and it
takes more than the standard has: one byte may stand between the last component of a time
and its offset, and anything may once a fraction has six digits.
-/
import ControlPlane.Lib.Text
import ControlPlane.Lib.Time

namespace ControlPlane

namespace IsoTime

/-! ### Bytes -/

/-- The code of an ASCII character. -/
def ascii (c : Char) : UInt8 := c.toNat.toUInt8

/-- The byte at `pos`; zero at the end. -/
def byteAt (bytes : List UInt8) (pos : Nat) : UInt8 := bytes.getD pos 0

/-- The digits of ASCII. -/
def isDigit (b : UInt8) : Bool := 48 ≤ b && b ≤ 57

/-- `parse_digits`: the number that `width` bytes from `pos` on write. -/
def digits? (bytes : List UInt8) (pos : Nat) : (width : Nat) → Option Nat
  | 0 => some 0
  | width + 1 => do
      let value ← digits? bytes pos width
      let b := byteAt bytes (pos + width)
      if isDigit b then some (10 * value + (b.toNat - 48)) else none

/-! ### Dates -/

/-- `is_leap`. -/
def isLeap (year : Nat) : Bool := year % 4 = 0 && (year % 100 ≠ 0 || year % 400 = 0)

/-- `days_in_month`. -/
def daysInMonth (year month : Nat) : Nat :=
  if month = 2 then (if isLeap year then 29 else 28)
  else if month = 4 ∨ month = 6 ∨ month = 9 ∨ month = 11 then 30 else 31

/-- The days from 1970-01-01 to a calendar date. -/
def daysFromCivil (year month day : Nat) : Int :=
  let y := if month ≤ 2 then year - 1 else year
  let yearOfEra := y % 400
  let dayOfYear := (153 * ((month + 9) % 12) + 2) / 5 + day - 1
  let dayOfEra := 365 * yearOfEra + yearOfEra / 4 - yearOfEra / 100 + dayOfYear
  (y / 400 * 146097 + dayOfEra : Nat) - 719468

/-- A calendar date that exists. -/
def civilDate? (year month day : Nat) : Option Int :=
  if 1 ≤ year ∧ year ≤ 9999 ∧ 1 ≤ month ∧ month ≤ 12 ∧ 1 ≤ day ∧ day ≤ daysInMonth year month then
    some (daysFromCivil year month day)
  else none

/-- A week date that exists. -/
def weekDate? (year week day : Nat) : Option Int :=
  let firstDay := daysFromCivil year 1 1
  -- 1970-01-01 was a Thursday, and Monday counts as 0
  let firstWeekday := (firstDay + 3) % 7
  let longYear := firstWeekday = 3 ∨ firstWeekday = 2 ∧ isLeap year
  let monday := firstDay - firstWeekday + (if firstWeekday > 3 then 7 else 0)
  let days := monday + (((week - 1) * 7 + (day - 1) : Nat) : Int)
  if 1 ≤ year ∧ year ≤ 9999 ∧ 1 ≤ week ∧ (week ≤ 52 ∨ week = 53 ∧ longYear) ∧ 1 ≤ day ∧ day ≤ 7
      ∧ daysFromCivil 1 1 1 ≤ days ∧ days ≤ daysFromCivil 9999 12 31 then
    some days
  else none

/-- `parse_isoformat_date`, of the first `length` bytes. -/
def date? (bytes : List UInt8) (length : Nat) : Option Int := do
  let year ← digits? bytes 0 4
  let dashed := byteAt bytes 4 = ascii '-'
  let pos := if dashed then 5 else 4
  if byteAt bytes pos = ascii 'W' then
    let week ← digits? bytes (pos + 1) 2
    if length ≤ pos + 3 then weekDate? year week 1
    else if dashed then
      if byteAt bytes (pos + 3) = ascii '-' then weekDate? year week (← digits? bytes (pos + 4) 1)
      else none
    else weekDate? year week (← digits? bytes (pos + 3) 1)
  else
    let month ← digits? bytes pos 2
    if dashed then
      if byteAt bytes (pos + 2) = ascii '-' then civilDate? year month (← digits? bytes (pos + 3) 2)
      else none
    else civilDate? year month (← digits? bytes (pos + 2) 2)

/-- `_find_isoformat_datetime_separator`: how long the date is. -/
def dateLength? (bytes : List UInt8) : Option Nat :=
  if bytes.length = 7 then some 7
  else if byteAt bytes 4 = ascii '-' then
    if byteAt bytes 5 = ascii 'W' then
      if byteAt bytes 8 = ascii '-' then
        if bytes.length = 9 then none
        -- a dash between a week and hours, or one before the day of the week
        else if isDigit (byteAt bytes 10) then some 8 else some 10
      else some 8
    else some 10
  else if byteAt bytes 4 = ascii 'W' then
    let stop := 7 + ((bytes.drop 7).takeWhile isDigit).length
    if stop < 9 then some stop
    -- the digits of a time come in pairs
    else if stop % 2 = 0 then some 7 else some 8
  else some 8

/-! ### Times of day -/

/-- Hours, minutes, seconds and microseconds. -/
structure Clock where
  hours : Nat
  minutes : Nat
  seconds : Nat
  micros : Nat

/-- Where the components of a time end: with the text, where it has ended or one byte is left, or
before a fraction. -/
inductive ClockEnd where
  | ended (byteLeft : Bool)
  | fraction (pos : Nat)

/-- The components of a time up to `stop`, of which `left` may still come.  The byte after the
first one says whether colons separate them. -/
def components? (bytes : List UInt8) (stop : Nat) :
    (left : Nat) → (separated : Option Bool) → (pos : Nat) → Option (List Nat × ClockEnd)
  | 0, _, pos => some ([], .fraction pos)
  | left + 1, separated, pos => do
      let value ← digits? bytes pos 2
      let next := byteAt bytes (pos + 2)
      let colons := separated.getD (next = ascii ':')
      if stop ≤ pos + 3 then return ([value], .ended (next ≠ 0))
      else if colons ∧ next = ascii ':' then
        let (values, ending) ← components? bytes stop left (some colons) (pos + 3)
        return (value :: values, ending)
      else if next = ascii '.' ∨ next = ascii ',' then return ([value], .fraction (pos + 3))
      else if colons then none
      else
        let (values, ending) ← components? bytes stop left (some colons) (pos + 2)
        return (value :: values, ending)

/-- `parse_hh_mm_ss_ff`: a time that ends at `stop`, and whether something is left behind it. -/
def clock? (bytes : List UInt8) (stop : Nat) : Option (Clock × Bool) := do
  let (values, ending) ← components? bytes stop 3 none 0
  let clock (micros : Nat) : Clock :=
    { hours := values.getD 0 0, minutes := values.getD 1 0, seconds := values.getD 2 0, micros }
  match ending with
  | .ended byteLeft => return (clock 0, byteLeft)
  | .fraction pos =>
      let width := min (stop - pos) 6
      let value ← digits? bytes pos width
      let rest := (bytes.drop (pos + width)).dropWhile isDigit
      return (clock (value * 10 ^ (6 - width)), byteAt rest 0 ≠ 0)

/-- The offset that a sign and a time write.  Where its hours, minutes and seconds are zero it is
UTC, whatever its fraction. -/
def offset? (sign : Int) (clock : Clock) : Option Int :=
  let seconds := (clock.hours * 60 + clock.minutes) * 60 + clock.seconds
  let total := seconds * 1000000 + clock.micros
  if seconds = 0 then some 0
  else if total < 86400000000 then some (sign * total)
  else none

/-- What begins an offset. -/
def isOffsetSign (b : UInt8) : Bool := b = ascii '+' || b = ascii '-' || b = ascii 'Z'

/-- `parse_isoformat_time`: the time of day in microseconds, and the offset. -/
def timeOfDay? (bytes : List UInt8) : Option (Nat × Option Int) := do
  let stop := bytes.findIdx isOffsetSign
  let (clock, more) ← clock? bytes stop
  let offset ← if stop = bytes.length then (if more then none else some none)
    else if byteAt bytes stop = ascii 'Z' then
      (if byteAt bytes (stop + 1) = 0 then some (some 0) else none)
    else
      let sign := if byteAt bytes stop = ascii '-' then -1 else 1
      match clock? (bytes.drop (stop + 1)) (bytes.length - (stop + 1)) with
      | some (clock, false) => (offset? sign clock).map some
      | _ => none
  if clock.hours < 24 ∧ clock.minutes < 60 ∧ clock.seconds < 60 then
    return (((clock.hours * 60 + clock.minutes) * 60 + clock.seconds) * 1000000 + clock.micros,
      offset)
  none

/-! ### Dates with times -/

/-- A point in time as text writes it. -/
structure IsoDateTime where
  /-- Local time in microseconds since 1970-01-01T00:00:00. -/
  wallClock : Int
  /-- The offset from UTC in microseconds; none when `tzinfo` is `None`. -/
  offset : Option Int
deriving DecidableEq

/-- How many bytes the character has whose first one this is. -/
def characterLength (first : UInt8) : Nat :=
  if first < 0x80 then 1 else if first < 0xe0 then 2 else if first < 0xf0 then 3 else 4

/-- `datetime.fromisoformat`, which raises on text that is not a date. -/
def fromIsoformat (text : String) : Option IsoDateTime := do
  let bytes := text.toList.flatMap String.utf8EncodeChar
  if text.toList.length < 7 then none
  let length ← dateLength? bytes
  let days ← date? bytes length
  if bytes.length ≤ length then return ⟨days * 86400000000, none⟩
  let start := length + characterLength (byteAt bytes length)
  let (micros, offset) ← timeOfDay? (bytes.drop start)
  return ⟨days * 86400000000 + micros, offset⟩

/-- The instant, of a time that has an offset. -/
def IsoDateTime.instant? (time : IsoDateTime) : Option Int :=
  time.offset.map (time.wallClock - ·)

/-- `text.replace("Z", "+00:00")`. -/
def expandZulu (text : String) : String :=
  String.ofList (text.toList.flatMap fun c => if c = 'Z' then "+00:00".toList else [c])

end IsoTime

end ControlPlane
