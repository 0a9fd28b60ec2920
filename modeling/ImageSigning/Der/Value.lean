import ImageSigning.Der.Tlv

/-!
# Values under the distinguished rules

Certificates and keys are read under the distinguished rules, where each value has one writing. The
readers below take the value out of an element and refuse every other writing: a number with a
redundant octet, a bit string whose padding is not zero, a flag that is neither all ones nor all
zeros.
-/

namespace ImageSigning.Der.Tlv

/-- An octet string that is one element under the distinguished rules. -/
def strict? (b : Bytes) : Option Tlv := readOnly? .distinguished b

/-- The elements of a SEQUENCE. -/
def strictSequence? (e : Tlv) : Option (List Tlv) := e.sequence? .distinguished

/-- Whether two's complement content is as short as it can be. -/
def isMinimal : Bytes → Bool
  | [] => false
  | [_] => true
  | x :: y :: _ => !(x = 0 && y < 128) && !(x = 255 && y ≥ 128)

/-- The number in an INTEGER. -/
def strictInteger? (e : Tlv) : Option Int := do
  let content ← e.primitive? 2
  if isMinimal content then some (integerValue content) else none

/-- The number in an INTEGER that is not negative. -/
def natural? (e : Tlv) : Option Nat := do
  match ← e.strictInteger? with
  | .ofNat n => some n
  | .negSucc _ => none

/-- The most octets that a number inside an identifier may take. -/
def maxArcOctets : Nat := 19

/-- Whether every run of marked octets, and the octet that ends it, is short enough. -/
def shortArcs : Nat → Bytes → Bool
  | _, [] => true
  | n, x :: r => n < maxArcOctets && shortArcs (if x < 128 then 0 else n + 1) r

/-- The identifier in an OBJECT IDENTIFIER. -/
def strictOid? (e : Tlv) : Option Oid := do
  let content ← e.primitive? 6
  if content.length ≤ 63 && shortArcs 0 content then Oid.decode? content else none

/-- The octets of a bit string's content, if the number of unused bits is sound and they are zero. -/
def bits? : Bytes → Option Bytes
  | [] => none
  | unused :: r =>
    match r.getLast? with
    | none => if unused = 0 then some [] else none
    | some last =>
      if unused ≤ 7 ∧ last.toNat % Nat.pow 2 unused.toNat = 0 then some r else none

/-- The octets of a BIT STRING. -/
def bitString? (e : Tlv) : Option Bytes := do bits? (← e.primitive? 3)

/-- The octets of an OCTET STRING. -/
def octetString? (e : Tlv) : Option Bytes := e.primitive? 4

/-- Whether the element is a NULL. -/
def isNull (e : Tlv) : Bool := e.primitive? 5 = some []

/-- The flag in a BOOLEAN. -/
def boolean? (e : Tlv) : Option Bool := do
  match ← e.primitive? 1 with
  | [0] => some false
  | [255] => some true
  | _ => none

/-- The single element inside the explicit tag `n`. -/
def explicit? (n : Nat) (e : Tlv) : Option Tlv := do
  match ← e.context? .distinguished n with
  | [inner] => some inner
  | _ => none

/-- Splits off a leading element with the context-specific tag `n`. -/
def splitContext (n : Nat) : List Tlv → Option Tlv × List Tlv
  | e :: rest => if e.isContext n then (some e, rest) else (none, e :: rest)
  | [] => (none, [])

end ImageSigning.Der.Tlv
