import ImageSigning.Der.Value
import ImageSigning.Hash
import ImageSigning.Key.Curve

/-!
# Signatures on elliptic curves

A signature is a pair of numbers below the order of the base point, written as a SEQUENCE of two
integers under the distinguished rules. The secret number that each signature needs is drawn from the
key and the digest by keyed hashing, so that signing is a function and no number serves two messages.
-/

namespace ImageSigning.Ecdsa

open Number

/-- The leading bits of octets, as many as the order `n` has. -/
def leadingBits (n : Nat) (b : Bytes) : Nat :=
  Bytes.toNat b >>> (8 * b.length - (n.log2 + 1))

/-- A signature as an element. -/
def encode (r s : Nat) : Bytes := Der.sequence [Der.integer r, Der.integer s]

/-- The numbers of a signature. -/
def decode? (signature : Bytes) : Option (Nat × Nat) := do
  match ← (← Der.Tlv.strict? signature).strictSequence? with
  | [r, s] => some (← r.natural?, ← s.natural?)
  | _ => none

/-- Whether the signature is one over the message. -/
def verify (c : Curve) (q : Point) (f : HashFunction) (message signature : Bytes) : Bool :=
  match decode? signature with
  | none => false
  | some (r, s) =>
    if r = 0 ∨ s = 0 ∨ c.n ≤ r ∨ c.n ≤ s then false
    else
      let w := inverseMod s c.n
      let u := leadingBits c.n (f.run message) * w % c.n
      match c.read? (c.add (c.multiply u c.base) (c.multiply (r * w % c.n) q)) with
      | none => false
      | some p => p.x % c.n = r

/-- The state of the secret numbers' source. -/
structure Source where
  /-- The key of the keyed hash. -/
  key : Bytes
  /-- The octets that were drawn last. -/
  value : Bytes

/-- The source after more octets are stirred in. -/
def Source.stir (f : HashFunction) (g : Source) (seed : Bytes) : Source :=
  let key := f.keyed g.key (g.value ++ seed)
  ⟨key, f.keyed key g.value⟩

/-- The source for a key and a digest. -/
def Source.start (c : Curve) (f : HashFunction) (d : Nat) (digest : Bytes) : Source :=
  let width := Bytes.octetCount c.n
  let seed := Bytes.ofNat width d ++ Bytes.ofNat width (leadingBits c.n digest % c.n)
  let g : Source := ⟨Bytes.zeros f.size, List.replicate f.size 1⟩
  (g.stir f (0 :: seed)).stir f (1 :: seed)

/-- Draws blocks until there are at least `width` octets, at most `fuel` blocks. -/
def Source.draw (f : HashFunction) (width : Nat) : Nat → Source → Bytes → Source × Bytes
  | 0, g, drawn => (g, drawn)
  | fuel + 1, g, drawn =>
    if width ≤ drawn.length then (g, drawn)
    else
      let value := f.keyed g.key g.value
      Source.draw f width fuel ⟨g.key, value⟩ (drawn ++ value)

/-- Tries secret numbers from the source until one gives a signature. -/
def signFrom? (c : Curve) (f : HashFunction) (d z : Nat) : Nat → Source → Option Bytes
  | 0, _ => none
  | fuel + 1, g =>
    let width := Bytes.octetCount c.n
    let (g, drawn) := g.draw f width (width + 1) []
    let k := leadingBits c.n (drawn.take width)
    let again := signFrom? c f d z fuel (g.stir f [0])
    if k = 0 ∨ c.n ≤ k then again
    else
      match c.read? (c.multiply k c.base) with
      | none => again
      | some p =>
        let r := p.x % c.n
        let s := inverseMod k c.n * ((z + r * d) % c.n) % c.n
        if r = 0 ∨ s = 0 then again else some (encode r s)

/-- The signature over a message with the private number `d`. -/
def sign? (c : Curve) (d : Nat) (f : HashFunction) (message : Bytes) : Option Bytes :=
  let digest := f.run message
  signFrom? c f d (leadingBits c.n digest % c.n) 100 (.start c f d digest)

end ImageSigning.Ecdsa
