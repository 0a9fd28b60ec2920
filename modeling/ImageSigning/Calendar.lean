/-!
# Dates and moments

Days of the calendar that has always had its present leap years, from year 1 to year 9999, and
moments on them to the microsecond, with or without an offset from universal time.

* `Date.dayNumber`: the days from a fixed day on, so that dates and moments can be compared.
-/

namespace ImageSigning

/-- A number in at least `width` digits. -/
def paddedNumber (width n : Nat) : String :=
  let digits := toString n
  String.ofList (List.replicate (width - digits.length) '0') ++ digits

/-- A day. -/
structure Date where
  year : Nat
  month : Nat
  day : Nat
  deriving DecidableEq, Repr

namespace Date

/-- Whether a year has a leap day. -/
def isLeap (year : Nat) : Bool := year % 4 = 0 && (year % 100 ≠ 0 || year % 400 = 0)

/-- Days of a month. -/
def daysIn (year month : Nat) : Nat :=
  if month = 2 then if isLeap year then 29 else 28
  else if month = 4 ∨ month = 6 ∨ month = 9 ∨ month = 11 then 30 else 31

/-- Whether there is such a day. -/
def isValid (d : Date) : Bool :=
  1 ≤ d.year && d.year ≤ 9999 && 1 ≤ d.month && d.month ≤ 12 && 1 ≤ d.day
    && d.day ≤ daysIn d.year d.month

/-- Days of the year before a month. -/
def daysBefore (year month : Nat) : Nat :=
  (List.range (month - 1)).foldl (fun days i => days + daysIn year (i + 1)) 0

/-- The number of the day. -/
def dayNumber (d : Date) : Nat :=
  let y := d.year - 1
  y * 365 + y / 4 - y / 100 + y / 400 + daysBefore d.year d.month + d.day

/-- Year, month and day. -/
def text (d : Date) : String :=
  paddedNumber 4 d.year ++ "-" ++ paddedNumber 2 d.month ++ "-" ++ paddedNumber 2 d.day

end Date

/-- A moment. -/
structure Moment where
  date : Date
  hour : Nat
  minute : Nat
  second : Nat
  microsecond : Nat
  /-- Minutes ahead of universal time, where that is known. -/
  offset : Option Int
  deriving DecidableEq, Repr

namespace Moment

/-- Whether there is such a moment. An offset is less than a day. -/
def isValid (m : Moment) : Bool :=
  m.date.isValid && m.hour < 24 && m.minute < 60 && m.second < 60 && m.microsecond < 1000000
    && m.offset.all fun o => o.natAbs < 24 * 60

/-- The microseconds from a fixed moment on, by universal time where the offset is known. -/
def instant (m : Moment) : Int :=
  let minutes : Int := (m.date.dayNumber * 24 + m.hour) * 60 + m.minute - m.offset.getD 0
  (minutes * 60 + m.second) * 1000000 + m.microsecond

/-- Whether two moments are the same; one with an offset is never the same as one without. -/
def same (m n : Moment) : Bool :=
  m.offset.isSome = n.offset.isSome && m.instant = n.instant

/-- An offset in hours and minutes. -/
def offsetText (o : Int) : String :=
  (if o < 0 then "-" else "+") ++ paddedNumber 2 (o.natAbs / 60) ++ ":"
    ++ paddedNumber 2 (o.natAbs % 60)

/-- Date, time of day, and offset where it is known. -/
def text (m : Moment) : String :=
  let fraction := if m.microsecond = 0 then "" else "." ++ paddedNumber 6 m.microsecond
  let offset := match m.offset with
    | some o => offsetText o
    | none => ""
  m.date.text ++ " " ++ paddedNumber 2 m.hour ++ ":" ++ paddedNumber 2 m.minute ++ ":"
    ++ paddedNumber 2 m.second ++ fraction ++ offset

end Moment

end ImageSigning
