import Schemata.Text.Range

/-!
Days of the calendar and moments of a day, from the numbers that a document gives. A moment may
tell how far its clock is ahead of universal time; two such moments are the same if they fall on
the same instant.
-/

namespace Schemata

/-- The first of the numbers of a day or a moment that is out of range. -/
inductive CalendarDefect
  /-- A clock is a day or more apart from universal time. -/
  | offset (minutes : Int)
  | year
  | month
  | day
  | hour
  | minute
  | second
deriving DecidableEq, Repr

structure Day where
  year : Nat
  month : Nat
  day : Nat
deriving DecidableEq, Repr

/-- A time of a day. The offset counts the minutes by which its clock is ahead. -/
structure Moment where
  day : Day
  hour : Nat
  minute : Nat
  second : Nat
  microsecond : Nat
  offset : Option Int
deriving DecidableEq, Repr

namespace Calendar

/-- A number with at least `width` digits. -/
def digits (width n : Nat) : Text :=
  let written := Nat.toDigits 10 n
  List.replicate (width - written.length) '0' ++ written

def minutesOfDay : Nat := 1440

/-- A span of minutes as messages show it: whole days, and the seconds that follow them. -/
def shownSpan (minutes : Int) : Text :=
  let days := minutes / minutesOfDay
  let seconds := (minutes % minutesOfDay).toNat * 60
  let daysText := (if days < 0 then ['-'] else []) ++ Nat.toDigits 10 days.natAbs
  let parts :=
    (if days = 0 then [] else ["days=".toList ++ daysText]) ++
      if seconds = 0 then [] else ["seconds=".toList ++ Nat.toDigits 10 seconds]
  "datetime.timedelta(".toList ++
    (if parts.isEmpty then ['0'] else List.intercalate ", ".toList parts) ++ [')']

end Calendar

namespace CalendarDefect

def message : CalendarDefect → Text
  | offset minutes =>
      ("offset must be a timedelta strictly between -timedelta(hours=24) and " ++
        "timedelta(hours=24), not ").toList ++ Calendar.shownSpan minutes ++ ['.']
  | year => "year 0 is out of range".toList
  | month => "month must be in 1..12".toList
  | day => "day is out of range for month".toList
  | hour => "hour must be in 0..23".toList
  | minute => "minute must be in 0..59".toList
  | second => "second must be in 0..59".toList

end CalendarDefect

namespace Day

def isLeap (year : Nat) : Bool :=
  year % 4 == 0 && (year % 100 != 0 || year % 400 == 0)

/-- The number of days of a month. -/
def inMonth (year month : Nat) : Nat :=
  if month = 2 then if isLeap year then 29 else 28
  else if [4, 6, 9, 11].contains month then 30
  else 31

/-- The first number that keeps a day out of the calendar. -/
def defect? (day : Day) : Option CalendarDefect :=
  if day.year = 0 then some .year
  else if day.month = 0 ∨ 12 < day.month then some .month
  else if day.day = 0 ∨ inMonth day.year day.month < day.day then some .day
  else none

/-- The number of days from the beginning of the calendar. -/
def ordinal (day : Day) : Nat :=
  let before := day.year - 1
  let months := (List.range' 1 (day.month - 1)).map (inMonth day.year)
  365 * before + before / 4 - before / 100 + before / 400 + months.foldr (· + ·) 0 + day.day

def text (day : Day) : Text :=
  Calendar.digits 4 day.year ++ '-' :: Calendar.digits 2 day.month ++ '-' ::
    Calendar.digits 2 day.day

/-- The numbers of a day as messages show them. -/
def numbers (day : Day) : List Text :=
  [day.year, day.month, day.day].map (Nat.toDigits 10)

def shown (day : Day) : Text :=
  "datetime.date(".toList ++ List.intercalate ", ".toList day.numbers ++ [')']

end Day

namespace Moment

/-- The first number that keeps a moment out of the calendar. -/
def defect? (moment : Moment) : Option CalendarDefect :=
  match moment.offset.filter fun offset => Calendar.minutesOfDay ≤ offset.natAbs with
  | some offset => some (.offset offset)
  | none =>
      match moment.day.defect? with
      | some defect => some defect
      | none =>
          if 23 < moment.hour then some .hour
          else if 59 < moment.minute then some .minute
          else if 59 < moment.second then some .second
          else none

/-- Seconds from the beginning of the calendar, by the moment's own clock. -/
def seconds (moment : Moment) : Int :=
  ((moment.day.ordinal * 24 + moment.hour) * 60 + moment.minute) * 60 + moment.second

/-- Moments of two clocks are compared by universal time; one without an offset is never the same
as one that has it. -/
def same (one other : Moment) : Bool :=
  match one.offset, other.offset with
  | none, none => one == other
  | some left, some right =>
      one.seconds - left * 60 == other.seconds - right * 60 && one.microsecond == other.microsecond
  | _, _ => false

def offsetText (offset : Int) : Text :=
  (if offset < 0 then '-' else '+') :: Calendar.digits 2 (offset.natAbs / 60) ++
    ':' :: Calendar.digits 2 (offset.natAbs % 60)

/-- The parts of a second are written only if there are some. -/
def text (moment : Moment) : Text :=
  moment.day.text ++ ' ' :: Calendar.digits 2 moment.hour ++
    ':' :: Calendar.digits 2 moment.minute ++ ':' :: Calendar.digits 2 moment.second ++
    (if moment.microsecond = 0 then [] else '.' :: Calendar.digits 6 moment.microsecond) ++
    (moment.offset.map offsetText).getD []

def shownOffset (offset : Int) : Text :=
  if offset = 0 then "datetime.timezone.utc".toList
  else "datetime.timezone(".toList ++ Calendar.shownSpan offset ++ [')']

/-- Seconds and their parts are shown as far as they are not zero. -/
def shown (moment : Moment) : Text :=
  let fine :=
    if moment.microsecond ≠ 0 then [moment.second, moment.microsecond]
    else if moment.second ≠ 0 then [moment.second]
    else []
  let numbers := moment.day.numbers ++ (moment.hour :: moment.minute :: fine).map (Nat.toDigits 10)
  let zone := moment.offset.toList.map fun offset => "tzinfo=".toList ++ shownOffset offset
  "datetime.datetime(".toList ++ List.intercalate ", ".toList (numbers ++ zone) ++ [')']

end Moment

end Schemata
