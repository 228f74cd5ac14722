import Upsert.Text.Basic

/-!
# Dates and times of day

Configuration files may hold calendar dates, times of day and date-times with an optional
offset from UTC. This module holds the three kinds, the proleptic Gregorian rule for valid dates,
and their two printed forms: the ISO form (`1979-05-27 07:32:00+00:00`) and the constructor form
(`datetime.date(1979, 5, 27)`), which omits trailing zero fields of a time.
-/

namespace Upsert

/-- A calendar date. -/
structure Date where
  year : Nat
  month : Nat
  day : Nat
deriving DecidableEq, Repr

/-- A time of day, to the microsecond. -/
structure Clock where
  hour : Nat
  minute : Nat
  second : Nat
  micro : Nat
deriving DecidableEq, Repr

/-- A date and a time of day, with an offset from UTC in minutes when one is given. -/
structure Moment where
  date : Date
  clock : Clock
  offset : Option Int
deriving DecidableEq, Repr

namespace Date

/-- Leap years of the Gregorian calendar. -/
def isLeap (y : Nat) : Bool := y % 4 = 0 && (y % 100 ≠ 0 || y % 400 = 0)

/-- Days in a month of a year. -/
def daysIn (y m : Nat) : Nat :=
  match m with
  | 2 => if isLeap y then 29 else 28
  | 4 | 6 | 9 | 11 => 30
  | _ => 31

/-- A date exists: a year from 1 to 9999, a month from 1 to 12, a day within the month. -/
def isValid (d : Date) : Bool :=
  1 ≤ d.year && d.year ≤ 9999 && 1 ≤ d.month && d.month ≤ 12 && 1 ≤ d.day &&
    d.day ≤ daysIn d.year d.month

end Date

/-- Decimal digits of `n` padded with zeros to `width`. -/
def padded (width n : Nat) : Text :=
  let ds := (Nat.toDigits 10 n).map Char.toNat
  ⟨List.replicate (width - ds.length) 48 ++ ds⟩

/-- `1979-05-27`. -/
def Date.iso (d : Date) : Text :=
  padded 4 d.year ++ "-" ++ padded 2 d.month ++ "-" ++ padded 2 d.day

/-- `07:32:00`, with `.ffffff` when there are microseconds. -/
def Clock.iso (c : Clock) : Text :=
  padded 2 c.hour ++ ":" ++ padded 2 c.minute ++ ":" ++ padded 2 c.second ++
    (if c.micro = 0 then Text.empty else "." ++ padded 6 c.micro)

/-- An offset in minutes as `+HH:MM`. -/
def offsetIso (m : Int) : Text :=
  (if m < 0 then "-" else "+") ++ padded 2 (m.natAbs / 60) ++ ":" ++ padded 2 (m.natAbs % 60)

/-- `1979-05-27 07:32:00+00:00`. -/
def Moment.iso (t : Moment) : Text :=
  t.date.iso ++ " " ++ t.clock.iso ++ (match t.offset with | some m => offsetIso m | none => Text.empty)

/-- The fields of a time of day in constructor form, trailing zeros left out. -/
def Clock.fields (c : Clock) : List Text :=
  [Text.ofNat c.hour, Text.ofNat c.minute] ++
    (if c.micro ≠ 0 then [Text.ofNat c.second, Text.ofNat c.micro]
     else if c.second ≠ 0 then [Text.ofNat c.second] else [])

/-- `datetime.date(1979, 5, 27)`. -/
def Date.construct (d : Date) : Text :=
  "datetime.date(" ++ Text.join ", " [Text.ofNat d.year, Text.ofNat d.month, Text.ofNat d.day] ++ ")"

/-- `datetime.time(7, 32)`. -/
def Clock.construct (c : Clock) : Text :=
  "datetime.time(" ++ Text.join ", " c.fields ++ ")"

/-- An offset in constructor form: the UTC zone, or a zone of a span of days and seconds whose
day count is negative for offsets west of UTC. -/
def offsetConstruct (m : Int) : Text :=
  if m = 0 then "datetime.timezone.utc"
  else
    let secs := m * 60
    let days := secs.fdiv 86400
    let rest := secs.fmod 86400
    let parts : List Text :=
      (if days ≠ 0 then ["days=" ++ Text.ofInt days] else []) ++
        (if rest ≠ 0 then ["seconds=" ++ Text.ofInt rest] else [])
    "datetime.timezone(datetime.timedelta(" ++ Text.join ", " parts ++ "))"

/-- `datetime.datetime(1979, 5, 27, 7, 32, tzinfo=datetime.timezone.utc)`. -/
def Moment.construct (t : Moment) : Text :=
  let d := t.date
  "datetime.datetime(" ++
    Text.join ", " ([Text.ofNat d.year, Text.ofNat d.month, Text.ofNat d.day] ++ t.clock.fields) ++
    (match t.offset with | some m => ", tzinfo=" ++ offsetConstruct m | none => Text.empty) ++ ")"

example : Date.isValid ⟨2024, 2, 29⟩ = true ∧ Date.isValid ⟨2023, 2, 29⟩ = false := by decide

end Upsert
