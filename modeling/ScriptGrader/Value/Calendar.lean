import ScriptGrader.Number.Layout

/-!
# Dates and moments

A date is a day of the Gregorian calendar; a moment adds a time of day to
the microsecond and, if it has one, the distance of its clock from the
universal one in minutes.
-/

namespace ScriptGrader

/-- A day of the calendar. -/
structure Date where
  year : Nat
  month : Nat
  day : Nat
  deriving DecidableEq, Repr, Inhabited

/-- A time of a day, on a clock that may be told apart from others. -/
structure Moment where
  date : Date
  hour : Nat
  minute : Nat
  second : Nat
  microsecond : Nat
  /-- Minutes ahead of the universal clock. -/
  offset : Option Int
  deriving DecidableEq, Repr, Inhabited

/-- Why numbers are not a date or a moment. -/
inductive CalendarError
  | year (year : Nat)
  | month
  | day
  | hour
  | minute
  | second
  /-- A clock a day or more away from the universal one, in minutes. -/
  | offset (minutes : Int)
  deriving DecidableEq, Repr

namespace Date

def isLeap (year : Nat) : Bool :=
  year % 4 = 0 && (year % 100 ≠ 0 || year % 400 = 0)

def daysInMonth (year month : Nat) : Nat :=
  match month with
  | 2 => if isLeap year then 29 else 28
  | 4 | 6 | 9 | 11 => 30
  | _ => 31

/-- The date of three numbers, if the calendar has it. -/
def ofNumbers? (year month day : Nat) : Except CalendarError Date :=
  if year = 0 ∨ 9999 < year then .error (.year year)
  else if month = 0 ∨ 12 < month then .error .month
  else if day = 0 ∨ daysInMonth year month < day then .error .day
  else .ok ⟨year, month, day⟩

/-- Days before the first of January of a year, counted from year 1. -/
def daysBeforeYear (year : Nat) : Nat :=
  let y := year - 1
  y * 365 + y / 4 - y / 100 + y / 400

/-- Days from the first day of year 1. -/
def ordinal (d : Date) : Nat :=
  (List.range (d.month - 1)).foldl (fun n m => n + daysInMonth d.year (m + 1)) (daysBeforeYear d.year) + d.day

end Date

namespace Moment

/-- The moment of given numbers, if the calendar has it. -/
def ofNumbers? (date : Except CalendarError Date) (hour minute second microsecond : Nat)
    (offset : Option Int) : Except CalendarError Moment :=
  match offset.filter (fun o => 1440 ≤ o.natAbs) with
  | some o => .error (.offset o)
  | none =>
    match date with
    | .error e => .error e
    | .ok d =>
      if 23 < hour then .error .hour
      else if 59 < minute then .error .minute
      else if 59 < second then .error .second
      else .ok ⟨d, hour, minute, second, microsecond, offset⟩

/-- Microseconds from the start of year 1, on the moment's own clock. -/
def localTime (m : Moment) : Int :=
  ((((m.date.ordinal * 24 + m.hour) * 60 + m.minute) * 60 + m.second) * 1000000 + m.microsecond : Nat)

/-- Two moments are the same time: both without a clock, or both with one. -/
def same (a b : Moment) : Bool :=
  match a.offset, b.offset with
  | none, none => a.localTime = b.localTime
  | some x, some y => a.localTime - x * 60000000 = b.localTime - y * 60000000
  | _, _ => false

end Moment

namespace CalendarError

/-- Whole days and the seconds left, for a duration that may be negative. -/
def daysAndSeconds (minutes : Int) : Int × Int :=
  let seconds := minutes * 60
  (Int.fdiv seconds 86400, Int.fmod seconds 86400)

/-- A duration as its parts that are not zero. -/
def duration (minutes : Int) : String :=
  let (d, s) := daysAndSeconds minutes
  let parts := (if d = 0 then [] else [s!"days={Layout.int d}"]) ++
    (if s = 0 then [] else [s!"seconds={Layout.int s}"])
  "datetime.timedelta(" ++ (if parts.isEmpty then "0" else ", ".intercalate parts) ++ ")"

def message : CalendarError → String
  | .year y => s!"year {y} is out of range"
  | .month => "month must be in 1..12"
  | .day => "day is out of range for month"
  | .hour => "hour must be in 0..23"
  | .minute => "minute must be in 0..59"
  | .second => "second must be in 0..59"
  | .offset m =>
    "offset must be a timedelta strictly between -timedelta(hours=24) and timedelta(hours=24), not "
      ++ duration m ++ "."

end CalendarError

namespace Date

def padded (width n : Nat) : String := String.ofList (Layout.padLeft width (Layout.nat n))

/-- Year, month and day with hyphens between. -/
def iso (d : Date) : String := s!"{padded 4 d.year}-{padded 2 d.month}-{padded 2 d.day}"

def literal (d : Date) : String := s!"datetime.date({d.year}, {d.month}, {d.day})"

end Date

namespace Moment

/-- Hours and minutes of a clock's distance, with a sign. -/
def offsetText (minutes : Int) : String :=
  let n := minutes.natAbs
  (if minutes < 0 then "-" else "+") ++ s!"{Date.padded 2 (n / 60)}:{Date.padded 2 (n % 60)}"

/-- Date, time and clock; the microseconds only if there are any. -/
def iso (m : Moment) : String :=
  s!"{m.date.iso} {Date.padded 2 m.hour}:{Date.padded 2 m.minute}:{Date.padded 2 m.second}" ++
    (if m.microsecond = 0 then "" else s!".{Date.padded 6 m.microsecond}") ++
    (match m.offset with
     | none => ""
     | some o => offsetText o)

def literal (m : Moment) : String :=
  let time :=
    if m.microsecond ≠ 0 then [m.hour, m.minute, m.second, m.microsecond]
    else if m.second ≠ 0 then [m.hour, m.minute, m.second]
    else [m.hour, m.minute]
  let numbers := [m.date.year, m.date.month, m.date.day] ++ time
  let clock := match m.offset with
    | none => ""
    | some o =>
      if o = 0 then ", tzinfo=datetime.timezone.utc"
      else s!", tzinfo=datetime.timezone({CalendarError.duration o})"
  "datetime.datetime(" ++ ", ".intercalate (numbers.map toString) ++ clock ++ ")"

end Moment
end ScriptGrader
