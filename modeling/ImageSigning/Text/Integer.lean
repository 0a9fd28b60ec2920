import ImageSigning.Text.Character

/-!
# Integers as text

An integer is written with an optional sign and decimal digits of any script, one underscore allowed
between two digits and blanks around the whole. At most 4300 digits are read or written.
-/

namespace ImageSigning.Text

/-- The digits of a numeral in which single underscores may stand between digits. -/
def readDigits? : List Char → Option (List Nat)
  | [] => none
  | [c] => (digitValue? c).map ([·])
  | c :: '_' :: r => do
    let d ← digitValue? c
    let rest ← readDigits? r
    some (d :: rest)
  | c :: r => do
    let d ← digitValue? c
    let rest ← readDigits? r
    some (d :: rest)

/-- The longest numeral that is read or written. -/
def maxDigits : Nat := 4300

/-- The number with the given digits, most significant first. -/
def ofDigits (base : Nat) (digits : List Nat) : Nat := digits.foldl (fun n d => n * base + d) 0

/-- Whether a blank may stand around a numeral; the four information separators may not. -/
def isNumeralBlank (c : Char) : Bool := isBlank c && !(28 ≤ c.toNat && c.toNat ≤ 31)

/-- The unsigned number written by the characters. -/
def readNatural? (cs : List Char) : Option Nat := do
  let digits ← readDigits? cs
  if digits.length ≤ maxDigits then some (ofDigits 10 digits) else none

/-- The integer written by a text. -/
def readInteger? (s : String) : Option Int :=
  match trimChars isNumeralBlank s.toList with
  | '-' :: r => (readNatural? r).map fun n => -(n : Int)
  | '+' :: r => (readNatural? r).map Int.ofNat
  | cs => (readNatural? cs).map Int.ofNat

end ImageSigning.Text
