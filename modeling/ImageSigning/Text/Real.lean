import ImageSigning.Number.Binary64
import ImageSigning.Text.Integer

/-!
# Numbers with a fraction as text

Such a number is written with an optional sign, decimal digits with at most one point among or around
them, and an optional exponent; or it is named as infinite or as no number, in any case. Integers in
other bases are written with an optional sign and an optional mark of the base.
-/

namespace ImageSigning.Text

/-- The digits at the beginning, and what follows them. -/
def spanDigits : List Char → List Nat × List Char
  | [] => ([], [])
  | c :: r =>
    match digitValue? c with
    | none => ([], c :: r)
    | some d => ((spanDigits r).map (d :: ·) id)

/-- An exponent up to the end of a numeral; no exponent counts as zero. -/
def readExponent? : List Char → Option Int
  | [] => some 0
  | e :: r =>
    if e ≠ 'e' ∧ e ≠ 'E' then none
    else
      let (negative, r) := match r with
        | '-' :: r => (true, r)
        | '+' :: r => (false, r)
        | r => (false, r)
      match spanDigits r with
      | ([], _) | (_, _ :: _) => none
      | (digits, []) => some (if negative then -(ofDigits 10 digits : Int) else ofDigits 10 digits)

/-- The unsigned number written by the characters. -/
def readUnsignedReal? (negative : Bool) (cs : List Char) : Option Binary64 :=
  let name := String.ofList (cs.map Char.toLower)
  if name = "inf" ∨ name = "infinity" then some (.infinite negative)
  else if name = "nan" then some .nan
  else
    let (whole, rest) := spanDigits cs
    let (fraction, rest) := match rest with
      | '.' :: r => spanDigits r
      | r => ([], r)
    if whole.isEmpty && fraction.isEmpty then none
    else (readExponent? rest).map fun e =>
      .ofDecimal negative (ofDigits 10 (whole ++ fraction)) (e - fraction.length)

/-- The number written by a text. -/
def readReal? (s : String) : Option Binary64 :=
  match trimChars isNumeralBlank s.toList with
  | '-' :: r => readUnsignedReal? true r
  | '+' :: r => readUnsignedReal? false r
  | cs => readUnsignedReal? false cs

/-! ### Other bases -/

/-- The value of a digit in a base of at most sixteen. -/
def baseDigit? (base : Nat) (c : Char) : Option Nat :=
  let lower := c.toLower
  let value := if 'a' ≤ lower ∧ lower ≤ 'f' then some (lower.toNat - 'a'.toNat + 10) else digitValue? c
  value.filter (· < base)

/-- The letter that marks a base. -/
def baseMark (base : Nat) : Char := if base = 2 then 'b' else if base = 8 then 'o' else 'x'

/-- The unsigned number written in a base, with or without its mark. -/
def readUnsignedInBase? (base : Nat) (cs : List Char) : Option Nat :=
  let cs := match cs with
    | '0' :: m :: r => if m.toLower = baseMark base then r else cs
    | _ => cs
  if cs.isEmpty then none else (cs.mapM (baseDigit? base)).map (ofDigits base)

/-- The integer written by a text in base 2, 8 or 16. -/
def readInBase? (base : Nat) (s : String) : Option Int :=
  match trimChars isNumeralBlank s.toList with
  | '-' :: r => (readUnsignedInBase? base r).map fun n => -(n : Int)
  | '+' :: r => (readUnsignedInBase? base r).map Int.ofNat
  | cs => (readUnsignedInBase? base cs).map Int.ofNat

end ImageSigning.Text
