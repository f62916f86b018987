import Blockwork.Clock.Duration

/-!
# Instants

An instant is a point in time to the nanosecond, together with the offset of the clock it is shown
on. It is written as a date and a time of day in the proleptic Gregorian calendar. Seconds are
counted in sixty-four bits, and after the last second the count goes on with the first.
-/

namespace Blockwork

/-- A point in time. -/
structure Instant where
  /-- Whole seconds since the beginning of 1970. -/
  seconds : Int
  /-- Nanoseconds after the whole second. -/
  nanoseconds : Nat := 0
  /-- Seconds by which the clock is ahead of universal time. -/
  offset : Int := 0
deriving DecidableEq, Repr

namespace Instant

/-- The beginning of the year one, which stands for an instant that is not known. -/
def unset : Instant := { seconds := -62135596800 }

instance : Inhabited Instant := ⟨unset⟩

/-- The number of seconds that agrees with another in the lowest sixty-four bits. -/
def wrapSeconds (seconds : Int) : Int := seconds.bmod 0x10000000000000000

/-- The instant some nanoseconds after or before a second. -/
def ofUnix (seconds nanoseconds offset : Int) : Instant where
  seconds := wrapSeconds (seconds + nanoseconds.fdiv 1000000000)
  nanoseconds := (nanoseconds.fmod 1000000000).toNat
  offset := offset

/-- Whether an instant is not known. -/
def isUnset (instant : Instant) : Bool :=
  instant.seconds = unset.seconds && instant.nanoseconds = 0

/-- The seconds since the beginning of the year one. -/
def reckoned (instant : Instant) : Int := wrapSeconds (instant.seconds - unset.seconds)

/-- The seconds since the beginning of the year one, and the nanoseconds after them, at the end of a
duration. The count stops at its ends and does not pass them. -/
def reckonedAfter (instant : Instant) (duration : Duration) : Int × Nat :=
  let nanoseconds := instant.nanoseconds + duration
  let passed := nanoseconds.fdiv 1000000000
  let start := instant.reckoned
  let stop := wrapSeconds (start + passed)
  (if decide (start < stop) = decide (0 < passed) then stop
    else if 0 < passed then 0x7FFFFFFFFFFFFFFF
    else -0x7FFFFFFFFFFFFFFF,
   (nanoseconds.fmod 1000000000).toNat)

/-- The duration from one instant to another; the longest or the shortest one if none leads from the
one to the other. -/
def since (later earlier : Instant) : Duration :=
  let duration := Duration.wrap ((later.reckoned - earlier.reckoned) * 1000000000 +
    ((later.nanoseconds : Int) - earlier.nanoseconds))
  if earlier.reckonedAfter duration = (later.reckoned, later.nanoseconds) then duration
  else if later.reckoned < earlier.reckoned ∨
      later.reckoned = earlier.reckoned ∧ later.nanoseconds < earlier.nanoseconds then
    .shortest
  else .longest

/-- Year, month and day of the day with the given number, counted from the beginning of 1970. Years
are counted from the first of March, so that the leap day comes last. -/
def civil (day : Int) : Int × Nat × Nat :=
  let shifted := day + 719468
  let era := shifted.fdiv 146097
  let ofEra := (shifted.fmod 146097).toNat
  let year := (ofEra - ofEra / 1460 + ofEra / 36524 - ofEra / 146096) / 365
  let ofYear := ofEra - (365 * year + year / 4 - year / 100)
  let month := (5 * ofYear + 2) / 153
  let ofMonth := ofYear - (153 * month + 2) / 5 + 1
  let calendarMonth := if month < 10 then month + 3 else month - 9
  let calendarYear := era * 400 + year + if calendarMonth ≤ 2 then 1 else 0
  (calendarYear, calendarMonth, ofMonth)

/-- A number with leading zeros up to the given width. -/
def padded (width value : Nat) : Bytes :=
  let digits := Bytes.decimal value
  List.replicate (width - digits.length) 48 ++ digits

/-- The offset of a clock, in hours and minutes. -/
def zone (offset : Int) : Bytes :=
  if offset = 0 then utf8 "Z"
  else
    let minutes := offset.tdiv 60
    utf8 (if minutes < 0 then "-" else "+") ++ padded 2 (minutes.natAbs / 60) ++ utf8 ":" ++
      padded 2 (minutes.natAbs % 60)

/-- The first second that has a date, counted from the beginning of 1970. Seconds before it have the
dates that follow the last one. -/
def firstDated : Int := -9223372028741760000

/-- The second that the clock of an instant shows, counted from the beginning of 1970. -/
def shown (instant : Instant) : Int :=
  firstDated + (instant.seconds + instant.offset - firstDated).emod 0x10000000000000000

/-- The second of the day that the clock of an instant shows. -/
def secondOfDay (instant : Instant) : Nat := (instant.shown.fmod 86400).toNat

/-- A year, in four digits or more. -/
def yearText (year : Int) : Bytes :=
  (if year < 0 then utf8 "-" else []) ++ padded 4 year.natAbs

/-- Date, time of day and offset; the second has as many decimal places as needed. -/
def text (instant : Instant) : Bytes :=
  let (year, month, day) := civil (instant.shown.fdiv 86400)
  let second := instant.secondOfDay
  yearText year ++ utf8 "-" ++ padded 2 month ++ utf8 "-" ++ padded 2 day ++ utf8 "T" ++
    padded 2 (second / 3600) ++ utf8 ":" ++ padded 2 (second / 60 % 60) ++ utf8 ":" ++
    padded 2 (second % 60) ++ Duration.fraction 9 instant.nanoseconds ++ zone instant.offset

/-- Date and time of day to the second, with nothing between the digits. -/
def digits (instant : Instant) : Bytes :=
  let (year, month, day) := civil (instant.shown.fdiv 86400)
  let second := instant.secondOfDay
  yearText year ++ padded 2 month ++ padded 2 day ++ padded 2 (second / 3600) ++
    padded 2 (second / 60 % 60) ++ padded 2 (second % 60)

end Instant
end Blockwork
