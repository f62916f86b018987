import Blockwork.Text.Bytes

/-!
# Durations

A duration is a whole number of nanoseconds that fits into sixty-four bits. It is shown in the
largest units that it fills, from hours down to nanoseconds.
-/

namespace Blockwork

/-- A number of nanoseconds. -/
abbrev Duration := Int

namespace Duration

/-- The longest duration. -/
def longest : Duration := 0x7FFFFFFFFFFFFFFF

/-- The shortest duration, which lasts from a later instant to an earlier one. -/
def shortest : Duration := -0x8000000000000000

/-- The duration nearest to a number of nanoseconds. -/
def saturate (nanoseconds : Int) : Duration := max shortest (min longest nanoseconds)

/-- The duration that agrees with a number of nanoseconds in the lowest sixty-four bits. -/
def wrap (nanoseconds : Int) : Duration := nanoseconds.bmod 0x10000000000000000

/-- The whole microseconds of a duration; what is left is dropped. -/
def microseconds (duration : Duration) : Int := duration.tdiv 1000

/-- The nearest whole number of microseconds, as a duration; a half goes away from zero. -/
def roundToMicroseconds (duration : Duration) : Duration :=
  let magnitude : Int := (duration.natAbs + 500) / 1000 * 1000
  saturate (if duration < 0 then -magnitude else magnitude)

/-- The digits after the decimal point, without zeros at the end; nothing if all are zero. -/
def fraction (places value : Nat) : Bytes :=
  let digits := Bytes.decimal value
  let padded : Bytes := List.replicate (places - digits.length) 48 ++ digits
  let kept := (padded.reverse.dropWhile (· = 48)).reverse
  if kept = [] then [] else utf8 "." ++ kept

/-- A number of nanoseconds in one unit, with decimal places as needed. -/
def inUnit (places nanoseconds : Nat) (unit : String) : Bytes :=
  Bytes.decimal (nanoseconds / Nat.pow 10 places) ++
    fraction places (nanoseconds % Nat.pow 10 places) ++
    utf8 unit

/-- A number of nanoseconds, at least a second, in hours, minutes and seconds. -/
def inHours (nanoseconds : Nat) : Bytes :=
  let seconds := nanoseconds / 1000000000
  let minutes := seconds / 60
  let hours := minutes / 60
  (if hours = 0 then [] else Bytes.decimal hours ++ utf8 "h") ++
    (if minutes = 0 then [] else Bytes.decimal (minutes % 60) ++ utf8 "m") ++
    inUnit 9 (seconds % 60 * 1000000000 + nanoseconds % 1000000000) "s"

/-- The text of a duration. -/
def text (duration : Duration) : Bytes :=
  let magnitude := duration.natAbs
  let sign := if duration < 0 then utf8 "-" else []
  if magnitude = 0 then utf8 "0s"
  else if magnitude < 1000 then sign ++ inUnit 0 magnitude "ns"
  else if magnitude < 1000000 then sign ++ inUnit 3 magnitude "µs"
  else if magnitude < 1000000000 then sign ++ inUnit 6 magnitude "ms"
  else sign ++ inHours magnitude

end Duration
end Blockwork
