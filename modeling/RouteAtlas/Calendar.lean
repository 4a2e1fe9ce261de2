/-
Days and moments of the calendar.

* `Day`, `Day.of`: a day, from numbers that name one.
* `Moment`, `Moment.of`: a time of a day, perhaps with a distance from universal time.
* `CalendarFault`: why numbers name no day or no moment, with `CalendarFault.message`.
* `Day.text`, `Moment.text`: how they are written; `Day.shown`, `Moment.shown`: how they are shown
  inside a report.
* `Moment.same`: two moments with a zone are the same if they are the same instant.
* `Day.number`: days are counted from the first day of the first year.
-/
namespace RouteAtlas

/-- A number with at least `width` digits. -/
def padded (width n : Nat) : String :=
  let digits := (toString n).toList
  String.ofList (List.replicate (width - digits.length) '0' ++ digits)

/-- A cause for which numbers name no day or no moment. -/
inductive CalendarFault
  | year
  | month
  | date
  | hour
  | minute
  | second
  /-- A distance from universal time, in minutes, of a day or more. -/
  | zone (minutes : Int)
  deriving DecidableEq, Repr

/-- A length of time of whole minutes, as it is shown: in days and in seconds of a day. -/
def shownSpan (minutes : Int) : String :=
  let days := minutes.fdiv 1440
  let seconds := minutes.fmod 1440 * 60
  let parts := (if days = 0 then [] else [s!"days={days}"])
    ++ if seconds = 0 then [] else [s!"seconds={seconds}"]
  "datetime.timedelta(" ++ ", ".intercalate parts ++ ")"

/-- The text of a cause. -/
def CalendarFault.message : CalendarFault → String
  | year => "year 0 is out of range"
  | month => "month must be in 1..12"
  | date => "day is out of range for month"
  | hour => "hour must be in 0..23"
  | minute => "minute must be in 0..59"
  | second => "second must be in 0..59"
  | zone minutes =>
    "offset must be a timedelta strictly between -timedelta(hours=24) and timedelta(hours=24), not "
      ++ shownSpan minutes ++ "."

/-! ### Days -/

/-- A day. -/
structure Day where
  year : Nat
  month : Nat
  date : Nat
  deriving DecidableEq, Repr

namespace Day

/-- Whether a year has a 29th of February. -/
def isLeap (year : Nat) : Bool :=
  year % 4 == 0 && (year % 100 != 0 || year % 400 == 0)

/-- The number of days of a month. -/
def daysIn (year month : Nat) : Nat :=
  if month = 2 then if isLeap year then 29 else 28
  else if month = 4 || month = 6 || month = 9 || month = 11 then 30
  else 31

/-- The day that numbers name. -/
def of (year month date : Nat) : Except CalendarFault Day :=
  if year = 0 then .error .year
  else if month = 0 || 12 < month then .error .month
  else if date = 0 || daysIn year month < date then .error .date
  else .ok ⟨year, month, date⟩

/-- The number of days from the first day of the first year. -/
def number (d : Day) : Nat :=
  let years := d.year - 1
  let months := (List.range (d.month - 1)).map fun m => daysIn d.year (m + 1)
  years * 365 + years / 4 - years / 100 + years / 400 + months.foldr (· + ·) 0 + (d.date - 1)

/-- A day as it is written. -/
def text (d : Day) : String :=
  s!"{padded 4 d.year}-{padded 2 d.month}-{padded 2 d.date}"

/-- A day as it is shown. -/
def shown (d : Day) : String :=
  s!"datetime.date({d.year}, {d.month}, {d.date})"

end Day

/-! ### Moments -/

/-- A time of a day. -/
structure Moment where
  day : Day
  hour : Nat
  minute : Nat
  second : Nat
  micro : Nat
  /-- The distance from universal time, in minutes. -/
  zone : Option Int
  deriving DecidableEq, Repr

namespace Moment

/-- A distance from universal time, which is less than a day. -/
def zoneOf (minutes : Int) : Except CalendarFault Int :=
  if minutes.natAbs < 1440 then .ok minutes else .error (.zone minutes)

/-- The moment that numbers name on a day. -/
def of (day : Day) (hour minute second micro : Nat) (zone : Option Int) :
    Except CalendarFault Moment :=
  if 23 < hour then .error .hour
  else if 59 < minute then .error .minute
  else if 59 < second then .error .second
  else .ok ⟨day, hour, minute, second, micro, zone⟩

/-- A moment with a zone in microseconds of universal time, counted from the first day. -/
def instant (m : Moment) (zone : Int) : Int :=
  let minutes : Int := (m.day.number * 24 + m.hour) * 60 + m.minute - zone
  (minutes * 60 + m.second) * 1000000 + m.micro

/-- Whether two moments are the same. One with a zone and one without are not. -/
def same (m n : Moment) : Bool :=
  match m.zone, n.zone with
  | some zm, some zn => m.instant zm == n.instant zn
  | none, none => m == n
  | _, _ => false

/-- A distance from universal time as it is written. -/
def zoneText (minutes : Int) : String :=
  (if minutes < 0 then "-" else "+") ++ padded 2 (minutes.natAbs / 60) ++ ":"
    ++ padded 2 (minutes.natAbs % 60)

/-- A moment as it is written. -/
def text (m : Moment) : String :=
  m.day.text ++ s!" {padded 2 m.hour}:{padded 2 m.minute}:{padded 2 m.second}"
    ++ (if m.micro = 0 then "" else "." ++ padded 6 m.micro)
    ++ (m.zone.map zoneText).getD ""

/-- A distance from universal time as it is shown. -/
def shownZone (minutes : Int) : String :=
  if minutes = 0 then "datetime.timezone.utc"
  else "datetime.timezone(" ++ shownSpan minutes ++ ")"

/-- A moment as it is shown; seconds are left out if they are zero. -/
def shown (m : Moment) : String :=
  s!"datetime.datetime({m.day.year}, {m.day.month}, {m.day.date}, {m.hour}, {m.minute}"
    ++ (if m.second = 0 && m.micro = 0 then "" else s!", {m.second}")
    ++ (if m.micro = 0 then "" else s!", {m.micro}")
    ++ ((m.zone.map fun zone => ", tzinfo=" ++ shownZone zone).getD "") ++ ")"

end Moment

end RouteAtlas
