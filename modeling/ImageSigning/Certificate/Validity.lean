import ImageSigning.Der.Value

/-!
# Points in time

A certificate says from when until when it holds, in one of two writings that differ in how many digits
the year has. Nothing here asks what time it is; a writing has only to name a day of the calendar and a
second of that day.
-/

namespace ImageSigning.Validity

open Der

/-- The number that decimal digits write. -/
def digits? : Bytes → Option Nat
  | [] => none
  | b => if b.all fun x => 48 ≤ x && x ≤ 57 then
      some (b.foldl (fun n x => n * 10 + (x.toNat - 48)) 0) else none

/-- Days of a month. -/
def daysOfMonth (year month : Nat) : Nat :=
  if month = 2 then
    if year % 4 = 0 ∧ (year % 100 ≠ 0 ∨ year % 400 = 0) then 29 else 28
  else if month = 4 ∨ month = 6 ∨ month = 9 ∨ month = 11 then 30
  else 31

/-- Whether ten digits after the year name a second. -/
def isMoment (year : Nat) (rest : Bytes) : Bool :=
  let part := fun i => digits? (Bytes.slice rest (2 * i) (2 * i + 2))
  match part 0, part 1, part 2, part 3, part 4 with
  | some month, some day, some hour, some minute, some second =>
    1 ≤ month && month ≤ 12 && 1 ≤ day && day ≤ daysOfMonth year month
      && hour ≤ 23 && minute ≤ 59 && second ≤ 59 && Bytes.slice rest 10 11 = [90]
      && rest.length = 11
  | _, _, _, _, _ => false

/-- Whether the element is a point in time. -/
def isTime (e : Tlv) : Bool :=
  match e.primitive? 23, e.primitive? 24 with
  | some b, _ =>
    match digits? (b.take 2) with
    | some year => isMoment (if year < 50 then 2000 + year else 1900 + year) (b.drop 2)
    | none => false
  | none, some b =>
    match digits? (b.take 4) with
    | some year => isMoment year (b.drop 4)
    | none => false
  | none, none => false

/-- Whether the element is a sequence of two points in time. -/
def isValidity (e : Tlv) : Bool :=
  match e.strictSequence? with
  | some [start, stop] => isTime start && isTime stop
  | _ => false

end ImageSigning.Validity
