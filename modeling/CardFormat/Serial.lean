/-
This file holds volume serial numbers, which are made from the date and time at
which a volume is created, and the calendar that this needs: the Gregorian one, in
use for all years.
-/

namespace CardFormat

/-- A date and a time of day. -/
structure CalendarTime where
  year : Int
  month : Nat
  day : Nat
  hour : Nat
  minute : Nat
  second : Nat
  deriving Repr, DecidableEq

namespace CalendarTime

/-- The date of a day, counted from 1 January 1970. Years are taken to start in March,
so that the leap day is the last; 146097 days make 400 years. -/
def dateOfDay (day : Int) : Int × Nat × Nat :=
  let shifted := day + 719468
  let cycle := shifted / 146097
  let dayOfCycle := (shifted % 146097).toNat
  let yearOfCycle := (dayOfCycle - dayOfCycle / 1460 + dayOfCycle / 36524 - dayOfCycle / 146096) / 365
  let dayOfYear := dayOfCycle - (365 * yearOfCycle + yearOfCycle / 4 - yearOfCycle / 100)
  let monthFromMarch := (5 * dayOfYear + 2) / 153
  let dayOfMonth := dayOfYear - (153 * monthFromMarch + 2) / 5 + 1
  let month := if monthFromMarch < 10 then monthFromMarch + 3 else monthFromMarch - 9
  let year := cycle * 400 + yearOfCycle
  (if month ≤ 2 then year + 1 else year, month, dayOfMonth)

/-- The date and time of a number of seconds since the start of 1970. -/
def ofSeconds (seconds : Int) : CalendarTime :=
  let (year, month, day) := dateOfDay (seconds / 86400)
  let ofDay := (seconds % 86400).toNat
  ⟨year, month, day, ofDay / 3600, ofDay / 60 % 60, ofDay % 60⟩

end CalendarTime

/-- The serial of a volume created at the given time. The low half is month and day
plus the seconds, the high half hour and minute plus the year. -/
def volumeSerial (time : CalendarTime) : UInt32 :=
  let low := UInt16.ofNat (time.month * 256 + time.day) + UInt16.ofNat (time.second % 60 * 256)
  let high := UInt16.ofNat (time.hour * 256 + time.minute) + UInt16.ofNat (time.year % 65536).toNat
  (high.toUInt32 <<< 16) ||| low.toUInt32

end CardFormat
