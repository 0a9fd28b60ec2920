import ImageSigning.Bytes

/-!
# Hexadecimal text

Octets are shown with two lower-case digits each, offsets and sizes with as many digits as they
need. `decode?` reads what `encode` writes, in either case of letters, and nothing else.
-/

namespace ImageSigning.Hex

/-- The digit of a number below sixteen. -/
def digit (n : Nat) : Char := if n < 10 then Char.ofNat (48 + n) else Char.ofNat (87 + n)

/-- The value of a digit. -/
def value? (c : Char) : Option Nat :=
  if '0' ≤ c ∧ c ≤ '9' then some (c.toNat - 48)
  else if 'a' ≤ c ∧ c ≤ 'f' then some (c.toNat - 87)
  else if 'A' ≤ c ∧ c ≤ 'F' then some (c.toNat - 55)
  else none

/-- The two digits of each octet. -/
def encodeChars (b : Bytes) : List Char :=
  b.flatMap fun x => [digit (x.toNat / 16), digit (x.toNat % 16)]

/-- Octets as lower-case text, two digits each. -/
def encode (b : Bytes) : String := String.ofList (encodeChars b)

/-- The octets written by pairs of digits; `none` for an odd count or another character. -/
def decodeChars? : List Char → Option Bytes
  | [] => some []
  | [_] => none
  | h :: l :: r => do
    let high ← value? h
    let low ← value? l
    let rest ← decodeChars? r
    some (UInt8.ofNat (high * 16 + low) :: rest)

/-- The octets written by a text of digit pairs. -/
def decode? (s : String) : Option Bytes := decodeChars? s.toList

/-- The digits of a number, most significant first, `0` for zero. -/
def digits (n : Nat) : List Char := Nat.toDigits 16 n

/-- A natural number without leading zeros. -/
def ofNat (n : Nat) : String := String.ofList (digits n)

/-- A number with a leading minus sign where it is negative. -/
def ofInt : Int → String
  | .ofNat n => ofNat n
  | .negSucc n => "-" ++ ofNat (n + 1)

/-- A number in at least four digits. -/
def ofNatWide (n : Nat) : String :=
  let d := digits n
  String.ofList (List.replicate (4 - d.length) '0' ++ d)

end ImageSigning.Hex
