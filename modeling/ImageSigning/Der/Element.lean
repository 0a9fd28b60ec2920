import ImageSigning.Oid

/-!
# Writing DER

A DER element is an identifier octet, the length of the content in the fewest octets, and the
content. The writers below give the elements that signatures are made of; each takes the finished
encodings of its parts.

* `length_element`: header and content are all there is.
-/

namespace ImageSigning.Der

/-- A length in the fewest octets: itself below 128, else a count of octets and the octets. -/
def lengthOctets (n : Nat) : Bytes :=
  if n < 128 then [UInt8.ofNat n]
  else UInt8.ofNat (128 + Bytes.octetCount n) :: Bytes.minimal n

/-- An element with the given identifier octet. -/
def element (identifier : UInt8) (content : Bytes) : Bytes :=
  identifier :: (lengthOctets content.length ++ content)

/-- The length of the shortest element whose length takes more octets than can be counted: the count
stands in seven bits, and the largest one is reserved. -/
def elementLimit : Nat := Nat.pow 256 126 + 129

/-- The content octets of a natural number: the fewest whose high bit is clear. -/
def naturalOctets (n : Nat) : Bytes :=
  match Bytes.minimal n with
  | [] => [0]
  | x :: r => if x < 128 then x :: r else 0 :: x :: r

/-- The content octets of an integer in two's complement: a negative one complements the octets of
its distance to minus one. -/
def integerOctets : Int → Bytes
  | .ofNat n => naturalOctets n
  | .negSucc n => (naturalOctets n).map (~~~ ·)

/-- The integer with the given content octets in two's complement; no octets stand for zero. -/
def integerValue (b : Bytes) : Int :=
  match b with
  | [] => 0
  | x :: _ => if x < 128 then b.toNat else (b.toNat : Int) - (Nat.pow 256 b.length : Nat)

/-- INTEGER. -/
def integer (n : Int) : Bytes := element 0x02 (integerOctets n)

/-- OCTET STRING. -/
def octetString (b : Bytes) : Bytes := element 0x04 b

/-- NULL. -/
def null : Bytes := [0x05, 0x00]

/-- OBJECT IDENTIFIER, where the arcs can be written. -/
def objectIdentifier? (oid : Oid) : Option Bytes := oid.encode?.map (element 0x06)

/-- SEQUENCE of finished elements. -/
def sequence (parts : List Bytes) : Bytes := element 0x30 parts.flatten

/-- The explicit tag with number `n`, below 31, around a finished element. -/
def explicit (n : UInt8) (content : Bytes) : Bytes := element (0xa0 + n) content

/-- An element is its identifier, its length and its content. -/
theorem length_element (identifier : UInt8) (content : Bytes) :
    (element identifier content).length
      = 1 + (lengthOctets content.length).length + content.length := by
  simp [element]; omega

end ImageSigning.Der
