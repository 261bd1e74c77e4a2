import SiteTrial.Text.Hex
/-!
# Dates and moments

* `Date` : a day of the Gregorian calendar, `Date.make?` refuses days that do not exist;
* `Moment` : a day with a time and perhaps a distance from universal time;
* `Date.text`, `Moment.text` : the plain forms;
* `Date.ofDays`, `Moment.ofMicros` : the day and the moment that lie so far behind the start of 1970;
* `Date.days`, `Moment.universal?` : how far a day and a moment lie behind the start of the calendar;
* `Moment.same` : whether two moments are one, wherever they were noted;
* `Moment.stamp` : the form in reports;
* `Date.shown`, `Moment.shown` : the forms inside a shown list or mapping.
-/

namespace SiteTrial

structure Date where
  year : Nat
  month : Nat
  day : Nat
deriving Repr, DecidableEq

/-- A day and a time, with the distance from universal time in minutes if it is known. -/
structure Moment where
  date : Date
  hour : Nat
  minute : Nat
  second : Nat
  micros : Nat
  offset : Option Int
deriving Repr, DecidableEq

/-- Whether a year has a 29th of February. -/
def isLeapYear (y : Nat) : Bool := y % 4 == 0 && (y % 100 != 0 || y % 400 == 0)

/-- How many days a month has. -/
def daysInMonth (y m : Nat) : Nat :=
  if m = 2 then (if isLeapYear y then 29 else 28)
  else if m = 4 ∨ m = 6 ∨ m = 9 ∨ m = 11 then 30
  else 31

/-- A number with zeros in front up to a width. -/
def padded (width n : Nat) : String :=
  let ds := Nat.toDigits 10 n
  String.ofList (List.replicate (width - ds.length) '0' ++ ds)

namespace Date

/-- The day with these numbers, if it exists. -/
def make? (year month day : Nat) : Option Date :=
  if 1 ≤ year ∧ year ≤ 9999 ∧ 1 ≤ month ∧ month ≤ 12 ∧ 1 ≤ day ∧ day ≤ daysInMonth year month
  then some ⟨year, month, day⟩ else none

/-- Year, month and day with hyphens. -/
def text (d : Date) : String :=
  padded 4 d.year ++ "-" ++ padded 2 d.month ++ "-" ++ padded 2 d.day

/-- The day that lies so many days behind the first of January 1970. Years are counted from March, so
that the day that only leap years have stands at their end; 400 of them have 146097 days. -/
def ofDays (days : Nat) : Date :=
  let n := days + 719468
  let rest := n % 146097
  let years := (rest - rest / 1460 + rest / 36524 - rest / 146096) / 365
  let day := rest - (365 * years + years / 4 - years / 100)
  let month := (5 * day + 2) / 153
  let year := 400 * (n / 146097) + years
  if month < 10 then ⟨year, month + 3, day - (153 * month + 2) / 5 + 1⟩
  else ⟨year + 1, month - 9, day - (153 * month + 2) / 5 + 1⟩

/-- How many days lie between a day and the last of February of the year before the first, years being
counted from March. -/
def days (d : Date) : Nat :=
  let (year, month) := if d.month ≤ 2 then (d.year - 1, d.month + 9) else (d.year, d.month - 3)
  365 * year + year / 4 - year / 100 + year / 400 + (153 * month + 2) / 5 + d.day

def shown (d : Date) : String :=
  "datetime.date(" ++ toString d.year ++ ", " ++ toString d.month ++ ", " ++ toString d.day ++ ")"

end Date

namespace Moment

/-- The moment with these numbers, if it exists. -/
def make? (date : Date) (hour minute second micros : Nat) (offset : Option Int) : Option Moment :=
  if hour < 24 ∧ minute < 60 ∧ second < 60 ∧ (offset.all fun o => o.natAbs < 24 * 60)
  then some ⟨date, hour, minute, second, micros, offset⟩ else none

/-- A distance from universal time: sign, hours and minutes. -/
def offsetText (o : Int) : String :=
  (if o < 0 then "-" else "+") ++ padded 2 (o.natAbs / 60) ++ ":" ++ padded 2 (o.natAbs % 60)

/-- Day, time, fraction and distance. -/
def text (m : Moment) : String :=
  m.date.text ++ " " ++ padded 2 m.hour ++ ":" ++ padded 2 m.minute ++ ":" ++ padded 2 m.second
    ++ (if m.micros = 0 then "" else "." ++ padded 6 m.micros)
    ++ (m.offset.elim "" offsetText)

/-- The moment that lies so many microseconds behind the start of 1970. -/
def ofMicros (micros : Nat) : Moment :=
  let seconds := micros / 1000000
  { date := .ofDays (seconds / 86400), hour := seconds / 3600 % 24, minute := seconds / 60 % 60
    second := seconds % 60, micros := micros % 1000000, offset := some 0 }

/-- The microseconds of universal time at a moment whose distance from it is known. -/
def universal? (m : Moment) : Option Int :=
  m.offset.map fun o =>
    ((m.date.days * 24 + m.hour) * 60 + m.minute - o) * 60000000 + m.second * 1000000 + m.micros

/-- Whether two moments are one: by universal time where both distances from it are known. -/
def same (a b : Moment) : Bool :=
  match a.universal?, b.universal? with
  | some s, some t => s == t
  | none, none => decide (a = b)
  | _, _ => false

/-- Day and time as one word. -/
def stamp (m : Moment) : String := m.text.map fun c => if c = ' ' then 'T' else c

/-- A zone inside a shown moment. -/
def zoneShown (o : Int) : String :=
  if o = 0 then "datetime.timezone.utc"
  else
    let seconds := o * 60
    let inside :=
      if seconds < 0 then
        let rest := seconds + 86400
        "days=-1" ++ (if rest = 0 then "" else ", seconds=" ++ toString rest)
      else "seconds=" ++ toString seconds
    "datetime.timezone(datetime.timedelta(" ++ inside ++ "))"

/-- A moment inside a shown list or mapping; zero seconds and fractions at the end are left out. -/
def shown (m : Moment) : String :=
  let tail := if m.micros = 0 then (if m.second = 0 then [] else [m.second]) else [m.second, m.micros]
  let numbers := [m.date.year, m.date.month, m.date.day, m.hour, m.minute] ++ tail
  "datetime.datetime(" ++ ", ".intercalate (numbers.map toString)
    ++ (m.offset.elim "" fun o => ", tzinfo=" ++ zoneShown o) ++ ")"

end Moment

end SiteTrial
