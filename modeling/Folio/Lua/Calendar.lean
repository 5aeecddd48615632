/-!
# Calendar

Points in time as seconds since the beginning of the year 1970, and as dates of the calendar, in the
time of Greenwich.

Main definitions:
- `Lua.CalendarTime`, `Lua.CalendarTime.ofSeconds`, `Lua.secondsOf`
- `Lua.CalendarTime.formatted?`: what a letter of a format stands for
-/

namespace Folio.Lua

/-! ## Section 1: Dates -/

/-- A point in time. Months and days of the month are counted from one, days of the year from zero, and
days of the week from Sunday, which is zero. -/
structure CalendarTime where
  year : Int
  month : Nat
  day : Nat
  hour : Nat
  minute : Nat
  second : Nat
  weekday : Nat
  yearDay : Nat
deriving Inhabited

/-- The number of a day, counted from the first of January 1970. The day of the month may lie outside
the month. A year is taken to begin in March, so that a leap day is its last day. -/
def dayNumber (year : Int) (month : Nat) (day : Int) : Int :=
  let y := if month ≤ 2 then year - 1 else year
  let era := Int.fdiv y 400
  let yearOfEra := y - era * 400
  let monthFromMarch := (month + 9) % 12
  let dayOfYear : Int := ((153 * monthFromMarch + 2) / 5 : Nat) + (day - 1)
  let dayOfEra := yearOfEra * 365 + yearOfEra / 4 - yearOfEra / 100 + dayOfYear
  era * 146097 + dayOfEra - 719468

/-- The year, month and day of the month of a day. -/
def dateOfDay (number : Int) : Int × Nat × Nat :=
  let shifted := number + 719468
  let era := Int.fdiv shifted 146097
  let dayOfEra := (shifted - era * 146097).toNat
  let yearOfEra := (dayOfEra - dayOfEra / 1460 + dayOfEra / 36524 - dayOfEra / 146096) / 365
  let dayOfYear := dayOfEra - (365 * yearOfEra + yearOfEra / 4 - yearOfEra / 100)
  let monthFromMarch := (5 * dayOfYear + 2) / 153
  let day := dayOfYear - (153 * monthFromMarch + 2) / 5 + 1
  let month := if monthFromMarch < 10 then monthFromMarch + 3 else monthFromMarch - 9
  let year : Int := yearOfEra + era * 400
  (if month ≤ 2 then year + 1 else year, month, day)

/-- The seconds of a date, whose parts may lie outside their ranges. -/
def secondsOf (year month day hour minute second : Int) : Int :=
  let years := Int.fdiv (month - 1) 12
  let month := (month - 1 - years * 12).toNat + 1
  dayNumber (year + years) month day * 86400 + hour * 3600 + minute * 60 + second

namespace CalendarTime

/-- The point in time after so many seconds. -/
def ofSeconds (t : Int) : CalendarTime :=
  let number := Int.fdiv t 86400
  let rest := (t - number * 86400).toNat
  let (year, month, day) := dateOfDay number
  { year, month, day
    hour := rest / 3600
    minute := rest / 60 % 60
    second := rest % 60
    weekday := ((number + 4) % 7).toNat
    yearDay := (number - dayNumber year 1 1).toNat }

/-! ## Section 2: Formats -/

/-- A number with a character in front up to a width. -/
def padded (fill : Char) (width n : Nat) : String :=
  let digits := (toString n).toList
  String.ofList (List.replicate (width - digits.length) fill ++ digits)

/-- A number in two digits. -/
def twoDigits (n : Nat) : String := padded '0' 2 n

/-- The days of the week. -/
def weekdayNames : List String :=
  ["Sunday", "Monday", "Tuesday", "Wednesday", "Thursday", "Friday", "Saturday"]

/-- The months. -/
def monthNames : List String :=
  ["January", "February", "March", "April", "May", "June", "July", "August", "September", "October",
    "November", "December"]

/-- The first three letters of a name. -/
def short (name : String) : String := String.ofList (name.toList.take 3)

/-- The day of the week. -/
def weekdayName (c : CalendarTime) : String := (weekdayNames[c.weekday]?).getD "?"

/-- The month. -/
def monthName (c : CalendarTime) : String := (monthNames[c.month - 1]?).getD "?"

/-- The hour among twelve. -/
def hourOfTwelve (c : CalendarTime) : Nat := if c.hour % 12 = 0 then 12 else c.hour % 12

/-- The day of the week, counted from one on Monday. -/
def dayFromMonday (c : CalendarTime) : Nat := if c.weekday = 0 then 7 else c.weekday

/-- Whether a year has a leap day. -/
def isLeap (year : Int) : Bool := year % 4 = 0 && (year % 100 ≠ 0 || year % 400 = 0)

/-- The number of weeks of a year, given the day of the week of its last day, counted from one on
Monday. A week belongs to the year that has its Thursday. -/
def weeksOf (year : Int) : Nat :=
  let last := ((dayNumber year 12 31 + 3) % 7).toNat + 1
  if last = 4 || (last = 5 && isLeap year) then 53 else 52

/-- The year to which a week belongs, and the number of the week in it. -/
def yearAndWeek (c : CalendarTime) : Int × Nat :=
  let week : Int := ((c.yearDay : Int) + 1 - c.dayFromMonday + 10) / 7
  if week < 1 then (c.year - 1, weeksOf (c.year - 1))
  else if week > weeksOf c.year then (c.year + 1, 1)
  else (c.year, week.toNat)

/-- The time of the day. -/
def clock (c : CalendarTime) : String :=
  twoDigits c.hour ++ ":" ++ twoDigits c.minute ++ ":" ++ twoDigits c.second

/-- The date in short. -/
def shortDate (c : CalendarTime) : String :=
  twoDigits c.month ++ "/" ++ twoDigits c.day ++ "/" ++ twoDigits (c.year % 100).toNat

/-- What a letter of a format stands for, with the name of the zone. -/
def formatted? (c : CalendarTime) (zone : String) (letter : Char) : Option String :=
  match letter with
  | 'a' => some (short c.weekdayName)
  | 'A' => some c.weekdayName
  | 'b' | 'h' => some (short c.monthName)
  | 'B' => some c.monthName
  | 'c' =>
      some (short c.weekdayName ++ " " ++ short c.monthName ++ " " ++ padded ' ' 2 c.day ++ " "
        ++ c.clock ++ " " ++ toString c.year)
  | 'C' => some (twoDigits (c.year / 100).toNat)
  | 'd' => some (twoDigits c.day)
  | 'D' | 'x' => some c.shortDate
  | 'e' => some (padded ' ' 2 c.day)
  | 'F' => some (toString c.year ++ "-" ++ twoDigits c.month ++ "-" ++ twoDigits c.day)
  | 'g' => some (twoDigits (c.yearAndWeek.1 % 100).toNat)
  | 'G' => some (toString c.yearAndWeek.1)
  | 'H' => some (twoDigits c.hour)
  | 'I' => some (twoDigits c.hourOfTwelve)
  | 'j' => some (padded '0' 3 (c.yearDay + 1))
  | 'm' => some (twoDigits c.month)
  | 'M' => some (twoDigits c.minute)
  | 'n' => some "\n"
  | 'p' => some (if c.hour < 12 then "AM" else "PM")
  | 'r' =>
      some (twoDigits c.hourOfTwelve ++ ":" ++ twoDigits c.minute ++ ":" ++ twoDigits c.second
        ++ (if c.hour < 12 then " AM" else " PM"))
  | 'R' => some (twoDigits c.hour ++ ":" ++ twoDigits c.minute)
  | 'S' => some (twoDigits c.second)
  | 't' => some "\t"
  | 'T' | 'X' => some c.clock
  | 'u' => some (toString c.dayFromMonday)
  | 'U' => some (twoDigits ((c.yearDay + 7 - c.weekday) / 7))
  | 'V' => some (twoDigits c.yearAndWeek.2)
  | 'w' => some (toString c.weekday)
  | 'W' => some (twoDigits ((c.yearDay + 8 - c.dayFromMonday) / 7))
  | 'y' => some (twoDigits (c.year % 100).toNat)
  | 'Y' => some (toString c.year)
  | 'z' => some "+0000"
  | 'Z' => some zone
  | '%' => some "%"
  | _ => none

end CalendarTime

end Folio.Lua
