import ImageSigning.Calendar
import ImageSigning.Text.Case
import ImageSigning.Text.Real
import ImageSigning.Yaml.Kind
import ImageSigning.Yaml.Cursor

/-!
# Numbers, flags and moments from scalars

The text of a scalar whose kind is known becomes its value. A tag may claim a kind that the text does
not have; such a text is odd in one of several ways. Numbers may have underscores anywhere, and parts
in base sixty between colons.
-/

namespace ImageSigning.Yaml.Scalar

/-- A result, or an oddity in its place. -/
def orElse {α : Type} (o : Oddity) : Option α → Except Oddity α
  | some a => .ok a
  | none => .error o

/-- The flag that a word is. -/
def flag (s : String) : Except Oddity Bool :=
  if ["yes", "true", "on"].any (Text.isNameInAnyCase · s) then .ok true
  else if ["no", "false", "off"].any (Text.isNameInAnyCase · s) then .ok false
  else .error .notFlag

/-- The sign of a number and the rest, without underscores. There has to be something. -/
def signed (s : String) : Except Oddity (Bool × String) :=
  match s.toList.filter (· ≠ '_') with
  | [] => .error .noDigits
  | '-' :: r => .ok (true, String.ofList r)
  | '+' :: r => .ok (false, String.ofList r)
  | cs => .ok (false, String.ofList cs)

/-- The number whose parts in base sixty are given, the last one counting ones. -/
def sixtieths (parts : List Int) : Int := parts.foldl (fun n p => n * 60 + p) 0

/-- The unsigned integer that a text is. -/
def unsignedInteger (s : String) : Except Oddity Int :=
  if s = "0" then .ok 0
  else if s.startsWith "0b" then orElse .notNumber (Text.readInBase? 2 (s.drop 2).toString)
  else if s.startsWith "0x" then orElse .notNumber (Text.readInBase? 16 (s.drop 2).toString)
  else if s = "" then .error .noDigits
  else if s.startsWith "0" then orElse .notNumber (Text.readInBase? 8 s)
  else if s.toList.contains ':' then
    (orElse .notNumber ((Text.parts ':' s).mapM Text.readInteger?)).map sixtieths
  else orElse .notNumber (Text.readInteger? s)

/-- The integer that a text is. -/
def integer (s : String) : Except Oddity Int := do
  let (negative, rest) ← signed s
  let n ← unsignedInteger rest
  return if negative then -n else n

/-- The sum of parts in base sixty, added up from the last part on. -/
def sumSixtieths (parts : List Binary64) : Binary64 :=
  let add := fun (sum, unit) p => (Binary64.addAbs sum (Binary64.mulAbs p (.ofNat unit)), unit * 60)
  (parts.reverse.foldl add (Binary64.zero, 1)).1

/-- The number with a fraction that a text is. -/
def real (s : String) : Except Oddity Binary64 := do
  let (negative, rest) ← signed (String.ofList (s.toList.map Char.toLower))
  let x ←
    if rest = ".inf" then .ok (.infinite false)
    else if rest = ".nan" then .ok .nan
    else if rest.toList.contains ':' then do
      let parts ← orElse .notNumber ((Text.parts ':' rest).mapM Text.readReal?)
      .ok (sumSixtieths parts)
    else orElse .notNumber (Text.readReal? rest)
  return if negative then x.neg else x

/-! ### Moments -/

/-- The number in the digits at the beginning of a text, and the text behind the character that follows
them. -/
def leadingNumber (cs : List Char) : Nat × List Char :=
  (Text.ofDigits 10 ((cs.takeWhile Char.isDigit).map fun c => c.toNat - '0'.toNat),
    (cs.dropWhile Char.isDigit).drop 1)

/-- The first six digits of a fraction as a number of millionths. -/
def millionths (fraction : List Char) : Nat :=
  let digits := fraction.take 6
  (leadingNumber (digits ++ List.replicate (6 - digits.length) '0')).1

/-- An offset from universal time in minutes, if there is one. -/
def offset (cs : List Char) : Option Int :=
  match cs.dropWhile Kind.isGapChar with
  | [] => none
  | sign :: r =>
    let (hours, r) := leadingNumber r
    let minutes : Int := hours * 60 + (leadingNumber r).1
    some (if sign = '-' then -minutes else minutes)

/-- The time of day on a date, from a text that has the form of one. -/
def momentOn (date : Date) (cs : List Char) : Moment :=
  let (hour, r) := leadingNumber cs
  let (minute, r) := leadingNumber r
  let second := (leadingNumber r).1
  let r := r.dropWhile Char.isDigit
  let (fraction, r) := match r with
    | '.' :: r => (r.takeWhile Char.isDigit, r.dropWhile Char.isDigit)
    | r => ([], r)
  ⟨date, hour, minute, second, millionths fraction, offset r⟩

/-- The date that a text is, or the date and time. -/
def moment (s : String) : Except Oddity (Date ⊕ Moment) := do
  let cs := s.toList
  if !Kind.isMoment cs then throw .notMoment
  let (year, r) := leadingNumber cs
  let (month, r) := leadingNumber r
  let day := (leadingNumber r).1
  let rest := r.dropWhile Char.isDigit
  let date : Date := ⟨year, month, day⟩
  match Kind.separator? rest with
  | none => if date.isValid then return .inl date else throw .noSuchMoment
  | some time =>
    let m := momentOn date time
    if m.isValid then return .inr m else throw .noSuchMoment

end ImageSigning.Yaml.Scalar
