import ImageSigning.Text.Printable
import ImageSigning.Bytes.Hex

/-!
# Quoted text

A text is quoted by apostrophes, or by double quotes where it holds an apostrophe and no double
quote. Inside, the backslash and the chosen quote are escaped by a backslash, tab, line feed and
carriage return by a letter, and every character that is not printable by its number: two hexadecimal
digits below 256, four below 65536, else eight.

Octet strings are quoted the same way after the letter `b`, every octet outside printable ASCII by
its number.
-/

namespace ImageSigning.Text

/-- A number in exactly `width` hexadecimal digits. -/
def fixedHex (width n : Nat) : List Char :=
  let d := Hex.digits n
  List.replicate (width - d.length) '0' ++ d

/-- The quote for a text: apostrophes unless only those occur in it. -/
def chooseQuote (cs : List Char) : Char :=
  if cs.contains '\'' && !cs.contains '"' then '"' else '\''

/-- A character inside quotes. -/
def quoteChar (quote c : Char) : List Char :=
  if c = quote || c = '\\' then ['\\', c]
  else if c = '\n' then ['\\', 'n']
  else if c = '\r' then ['\\', 'r']
  else if c = '\t' then ['\\', 't']
  else if isPrintable c then [c]
  else if c.toNat < 256 then '\\' :: 'x' :: fixedHex 2 c.toNat
  else if c.toNat < 65536 then '\\' :: 'u' :: fixedHex 4 c.toNat
  else '\\' :: 'U' :: fixedHex 8 c.toNat

/-- A text in quotes. -/
def quoted (s : String) : String :=
  let quote := chooseQuote s.toList
  String.ofList (quote :: s.toList.flatMap (quoteChar quote) ++ [quote])

/-- An octet inside quotes. -/
def quoteOctet (quote : Char) (x : UInt8) : List Char :=
  if x.toNat < 127 then quoteChar quote (Char.ofNat x.toNat) else '\\' :: 'x' :: fixedHex 2 x.toNat

/-- An octet string in quotes. -/
def quotedBytes (b : Bytes) : String :=
  let quote := chooseQuote (b.map fun x => Char.ofNat x.toNat)
  String.ofList ('b' :: quote :: b.flatMap (quoteOctet quote) ++ [quote])

end ImageSigning.Text
