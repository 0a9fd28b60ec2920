import ImageSigning.Bytes.Hex
import ImageSigning.Text.Utf8

/-!
# Percent escapes

A percent sign and two hexadecimal digits stand for an octet. An escape that is malformed stands for
itself. Text is decoded run by run: the octets of a run of ASCII characters are read as UTF-8 with
malformed pieces replaced, and other characters stand as they are.
-/

namespace ImageSigning.Percent

/-- The octet that two hexadecimal digits write. -/
def octet? (high low : UInt8) : Option UInt8 := do
  let h ← Hex.value? (Char.ofNat high.toNat)
  let l ← Hex.value? (Char.ofNat low.toNat)
  some (UInt8.ofNat (16 * h + l))

/-- The octets with their escapes resolved. -/
def decode : Bytes → Bytes
  | 37 :: y :: z :: r =>
    match octet? y z with
    | some x => x :: decode r
    | none => 37 :: decode (y :: z :: r)
  | x :: r => x :: decode r
  | [] => []

/-- The octets of a text with its escapes resolved. -/
def decodeOctets (s : String) : Bytes := decode (Utf8.encode s)

/-- Whether a character is ASCII. -/
def isAscii (c : Char) : Bool := c.toNat < 128

/-- A run of characters that are all ASCII or all not, with its escapes resolved. -/
def decodeRun (cs : List Char) : List Char :=
  if cs.all isAscii then (Utf8.decodeLossy (decode (Utf8.encode (String.ofList cs)))).toList else cs

/-- A text with its escapes resolved. -/
def decodeText (s : String) : String :=
  String.ofList ((s.toList.splitBy fun a b => isAscii a == isAscii b).flatMap decodeRun)

end ImageSigning.Percent
