import ImageSigning.Certificate
import ImageSigning.Key.Ecdsa
import ImageSigning.Key.Edwards
import ImageSigning.Key.NamedCurve
import ImageSigning.Key.Rsa

/-!
# Public keys

The public key that a certificate holds. Two kinds can check a signature; the others are read, so that
a refusal can name them. An algorithm or a curve that is not known is told from a key that is
malformed.

* `PublicKey.encode`: the key with its algorithm, as certificates hold it.
-/

namespace ImageSigning

open Der

/-- Why a public key cannot be used. -/
inductive PublicKeyProblem where
  | malformed
  | unsupported
  deriving DecidableEq, Repr

/-- A public key. -/
inductive PublicKey where
  /-- Modulus and exponent. -/
  | rsa (n e : Nat)
  /-- A point of a curve. -/
  | curve (c : Curve) (q : Point)
  /-- Modulus, order and generator of a group, and an element of it. -/
  | dsa (p q g y : Nat)
  /-- The element of a group that keys are agreed in. -/
  | agreement (y : Nat)
  /-- Octets. -/
  | octets (kind : OctetKey) (value : Bytes)
  deriving DecidableEq, Repr

namespace PublicKey

/-- The kind of key as reports name it. -/
def kind : PublicKey → String
  | rsa _ _ => "RSAPublicKey"
  | curve _ _ => "ECPublicKey"
  | dsa _ _ _ _ => "DSAPublicKey"
  | agreement _ => "DHPublicKey"
  | octets k _ => k.name ++ "PublicKey"

/-- An identifier as an element. -/
def identifier (oid : Oid) : Bytes := element 0x06 (oid.encode?.getD [])

/-- The key with its algorithm. -/
def encode (key : PublicKey) : Bytes :=
  let bits := fun b : Bytes => element 0x03 (0 :: b)
  match key with
  | rsa n e =>
    sequence [sequence [identifier Algorithm.rsa, null], bits (sequence [integer n, integer e])]
  | curve c q =>
    sequence [sequence [identifier Algorithm.curve, identifier c.oid], bits (q.encode c)]
  | dsa p q g y =>
    sequence
      [sequence [identifier Algorithm.dsa, sequence [integer p, integer q, integer g]],
        bits (integer y)]
  | agreement y => sequence [sequence [identifier Algorithm.agreement], bits (integer y)]
  | octets k value => sequence [sequence [identifier k.oid], bits value]

/-- The curve that parameters name. -/
def curveOf (parameters : Option Tlv) : Except PublicKeyProblem Curve :=
  match parameters.bind Tlv.strictOid? with
  | none => .error .malformed
  | some oid =>
    match Curve.ofOid? oid with
    | none => .error .unsupported
    | some c => .ok c

/-- Modulus and exponent. -/
def readRsa? (b : Bytes) : Option PublicKey := do
  match ← Algorithm.naturals? (← Tlv.strict? b) with
  | [n, e] => some (rsa n e)
  | _ => none

/-- An element of the group that parameters describe. -/
def readDsa? (parameters : Option Tlv) (b : Bytes) : Option PublicKey := do
  match ← Algorithm.naturals? (← parameters) with
  | [p, q, g] => some (dsa p q g (← (← Tlv.strict? b).natural?))
  | _ => none

/-- A result, or the verdict that the key is malformed. -/
def orMalformed (key : Option PublicKey) : Except PublicKeyProblem PublicKey :=
  match key with
  | some key => .ok key
  | none => .error .malformed

/-- The key with an algorithm and octets. -/
def read (algorithm : Algorithm) (b : Bytes) : Except PublicKeyProblem PublicKey :=
  let oid := algorithm.oid
  if oid = Algorithm.rsa ∨ oid = Algorithm.rsaProbabilistic then orMalformed (readRsa? b)
  else if oid = Algorithm.curve then do
    let c ← curveOf algorithm.parameters
    orMalformed ((Point.decode? c b).map (curve c))
  else if oid = Algorithm.dsa then orMalformed (readDsa? algorithm.parameters b)
  else if oid = Algorithm.agreement ∨ oid = Algorithm.agreementWithOrder then
    orMalformed (((Tlv.strict? b).bind Tlv.natural?).map agreement)
  else
    match OctetKey.all.find? (·.oid = oid) with
    | none => .error .unsupported
    | some k => if b.length = k.size then .ok (octets k b) else .error .malformed

/-- Whether a signature over a message is one of this key; only two kinds can tell. -/
def verify (key : PublicKey) (f : HashFunction) (message signature : Bytes) : Bool :=
  match key with
  | rsa n e => Rsa.verify n e f message signature
  | curve c q => Ecdsa.verify c q f message signature
  | _ => false

end PublicKey

/-- The public key of a certificate. -/
def Certificate.publicKey (c : Certificate) : Except PublicKeyProblem PublicKey :=
  PublicKey.read c.keyAlgorithm c.keyOctets

end ImageSigning
