import ResourceTrace.Text.Numeral

set_option autoImplicit false

namespace ResourceTrace

/-- Nanoseconds since the start of the year 1970. -/
structure Moment where
  nanos : Int
  deriving DecidableEq, Repr

namespace Moment

def nanosPerSecond : Int := 1000000000

def ofSeconds (secs nanos : Int) : Moment := ⟨secs * nanosPerSecond + nanos⟩

def after (m : Moment) (secs : Nat) : Moment := ⟨m.nanos + (secs : Int) * nanosPerSecond⟩

def elapsed (m now : Moment) : Nat := (now.nanos - m.nanos).toNat

def seconds (m : Moment) : Int := Int.fdiv m.nanos nanosPerSecond

def subsecond (m : Moment) : Nat := (Int.fmod m.nanos nanosPerSecond).toNat

end Moment

namespace Calendar

structure Date where
  year : Int
  month : Nat
  day : Nat
  deriving DecidableEq, Repr

/-- The date of a day counted from the start of 1970. Years are taken to begin in March, so
that a leap day ends its year; 400 years have 146097 days. -/
def dateOfDay (day : Int) : Date :=
  let shifted := day + 719468
  let era := Int.fdiv shifted 146097
  let dayOfEra := (Int.fmod shifted 146097).toNat
  let yearOfEra := (dayOfEra - dayOfEra / 1460 + dayOfEra / 36524 - dayOfEra / 146096) / 365
  let dayOfYear := dayOfEra - (365 * yearOfEra + yearOfEra / 4 - yearOfEra / 100)
  let monthFromMarch := (5 * dayOfYear + 2) / 153
  let month := if monthFromMarch < 10 then monthFromMarch + 3 else monthFromMarch - 9
  { year := era * 400 + yearOfEra + (if month ≤ 2 then 1 else 0)
    month := month
    day := dayOfYear - (153 * monthFromMarch + 2) / 5 + 1 }

def weekday (day : Int) : Nat := (Int.fmod (day + 4) 7).toNat

def weekdayNames : List String := ["Sun", "Mon", "Tue", "Wed", "Thu", "Fri", "Sat"]

def monthNames : List String :=
  ["Jan", "Feb", "Mar", "Apr", "May", "Jun", "Jul", "Aug", "Sep", "Oct", "Nov", "Dec"]

def yearText (year : Int) : String :=
  let digits := Numeral.padded 4 year.natAbs
  if year < 0 then "-" ++ digits else if 9999 < year then "+" ++ digits else digits

def clockText (secondOfDay : Nat) : String :=
  let two := Numeral.padded 2
  two (secondOfDay / 3600) ++ ":" ++ two (secondOfDay / 60 % 60) ++ ":" ++ two (secondOfDay % 60)

def dayOf (m : Moment) : Int := Int.fdiv m.seconds 86400

def secondOfDay (m : Moment) : Nat := (Int.fmod m.seconds 86400).toNat

end Calendar

/-- Seconds by which the local time is ahead of UTC at a moment. -/
abbrev Zone := Moment → Int

def Zone.utc : Zone := fun _ => 0

namespace Moment

open Calendar

def shifted (m : Moment) (secs : Int) : Moment := ⟨m.nanos + secs * nanosPerSecond⟩

def offsetText (secs : Int) : String :=
  let minutes := (secs.natAbs + 30) / 60
  let two := Numeral.padded 2
  (if secs < 0 then "-" else "+") ++ two (minutes / 60) ++ ":" ++ two (minutes % 60)

/-- Local time, as in `Sun Sep 09 03:46:40 +02:00 2001`. -/
def text (m : Moment) (zone : Zone := Zone.utc) : String :=
  let here := m.shifted (zone m)
  let date := dateOfDay (dayOf here)
  let weekdayName := weekdayNames.getD (weekday (dayOf here)) ""
  let monthName := monthNames.getD (date.month - 1) ""
  let day := Numeral.padded 2 date.day
  let clock := clockText (secondOfDay here)
  s!"{weekdayName} {monthName} {day} {clock} {offsetText (zone m)} {yearText date.year}"

/-- As in `2001-09-09T01:46:40.000+00:00`, cut off after the milliseconds. -/
def stamp (m : Moment) : String :=
  let date := dateOfDay (dayOf m)
  let month := Numeral.padded 2 date.month
  let day := Numeral.padded 2 date.day
  let millis := Numeral.padded 3 (m.subsecond / 1000000)
  s!"{yearText date.year}-{month}-{day}T{clockText (secondOfDay m)}.{millis}+00:00"

end Moment

end ResourceTrace
