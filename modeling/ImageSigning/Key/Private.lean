import ImageSigning.Key.Public
import ImageSigning.Pem

/-!
# Private keys

Private keys come in a common wrapping that names the algorithm, or bare in one of three older forms.
A key that contradicts itself is refused: the numbers of an RSA key have to fit each other, and a
point has to be the multiple of the base point that its number says. Keys under a password are
recognised but never opened.

* `PrivateKey.ofPem`: the first block with one of the labels of private keys.
* `PrivateKey.ofDer`: the common wrapping first, then the older forms.
-/

namespace ImageSigning

open Der Number

/-- A private key. -/
inductive PrivateKey where
  /-- Modulus, public and private exponent. -/
  | rsa (n e d : Nat)
  /-- A number and its multiple of the base point. -/
  | curve (c : Curve) (d : Nat) (q : Point)
  /-- Modulus, order and generator of a group, an element of it and its exponent. -/
  | dsa (p q g y x : Nat)
  /-- Octets. -/
  | octets (kind : OctetKey) (secret : Bytes)
  deriving DecidableEq, Repr

/-- Why a private key is refused. -/
inductive PrivateKeyProblem where
  | framing (problem : Pem.Problem)
  | noKeyBlock
  | passwordMissing
  | passwordUnused
  | headerInvalid
  | malformed
  | inconsistent
  | unsupported
  deriving DecidableEq, Repr

/-- The problem in words. -/
def PrivateKeyProblem.wording : PrivateKeyProblem → String
  | framing p =>
    "Unable to load PEM file. See https:/" ++ "/cryptography.io/en/latest/faq/"
      ++ "#why-can-t-i-import-my-pem-file for more details. " ++ p.wording
  | noKeyBlock =>
    "Valid PEM but no BEGIN/END delimiters for a private key found. "
      ++ "Are you sure this is a private key?"
  | passwordMissing => "Password was not given but private key is encrypted"
  | passwordUnused => "Password was given but private key is not encrypted."
  | headerInvalid => "Proc-Type PEM header is not valid, key could not be decrypted."
  | malformed =>
    "Could not deserialize key data. The data may be in an incorrect format, it may be encrypted "
      ++ "with an unsupported algorithm, or it may be an unsupported key type "
      ++ "(e.g. EC curves with explicit parameters)."
  | inconsistent => "Invalid private key"
  | unsupported => "Unsupported key type."

namespace PrivateKey

/-- The kind of key as reports name it. -/
def kind : PrivateKey → String
  | rsa _ _ _ => "RSAPrivateKey"
  | curve _ _ _ => "ECPrivateKey"
  | dsa _ _ _ _ _ => "DSAPrivateKey"
  | octets k _ => k.name ++ "PrivateKey"

/-- The public key. -/
def publicKey : PrivateKey → PublicKey
  | rsa n e _ => .rsa n e
  | curve c _ q => .curve c q
  | dsa p q g y _ => .dsa p q g y
  | octets k secret => .octets k (k.publicOctets secret)

/-- Bits of the key, for the kinds that come in sizes. -/
def bits? : PrivateKey → Option Nat
  | rsa n _ _ => some (if n = 0 then 0 else n.log2 + 1)
  | curve c _ _ => some c.bits
  | dsa p _ _ _ _ => some (if p = 0 then 0 else p.log2 + 1)
  | octets _ _ => none

/-- A result, or a problem in its place. -/
def orElse {α : Type} (problem : PrivateKeyProblem) : Option α → Except PrivateKeyProblem α
  | some a => .ok a
  | none => .error problem

/-- Whether the numbers of an RSA key fit each other. -/
def rsaFits (n e d p q dp dq qinv : Nat) : Bool :=
  e % 2 = 1 && e > 1 && isProbablePrime p && isProbablePrime q && n = p * q
    && d * e % Nat.lcm (p - 1) (q - 1) = 1 % Nat.lcm (p - 1) (q - 1)
    && dp = d % (p - 1) && dq = d % (q - 1) && qinv * q % p = 1 && qinv < p

/-- An RSA key in its older form. -/
def readRsa (b : Bytes) : Except PrivateKeyProblem PrivateKey := do
  match ← orElse .malformed ((Tlv.strict? b).bind Algorithm.naturals?) with
  | [version, n, e, d, p, q, dp, dq, qinv] =>
    if version ≠ 0 then throw .malformed
    if rsaFits n e d p q dp dq qinv then return rsa n e d else throw .inconsistent
  | _ => throw .malformed

/-- A key in the older form of the digital signature algorithm. -/
def readDsa (b : Bytes) : Except PrivateKeyProblem PrivateKey := do
  match ← orElse .malformed ((Tlv.strict? b).bind Algorithm.naturals?) with
  | [0, p, q, g, y, x] => return dsa p q g y x
  | _ => throw .malformed

/-- The curve that parameters name. -/
def curveOf (parameters : Tlv) : Except PrivateKeyProblem Curve :=
  (PublicKey.curveOf (some parameters)).mapError fun
    | .malformed => .malformed
    | .unsupported => .unsupported

/-- The curve that the parameters inside and outside a key agree on. -/
def agreedCurve (outer inner : Option Tlv) : Except PrivateKeyProblem Curve :=
  match outer, inner with
  | some o, some i => if o.whole = i.whole then curveOf o else .error .inconsistent
  | some parameters, none | none, some parameters => curveOf parameters
  | none, none => .error .inconsistent

/-- A key with the number `d` and, where it is given, its point. -/
def ofNumber (c : Curve) (d : Nat) (given : Option Bytes) : Except PrivateKeyProblem PrivateKey := do
  if d = 0 ∨ c.n ≤ d then throw .inconsistent
  let q ← orElse .inconsistent (c.read? (c.multiply d c.base))
  match given with
  | none => return curve c d q
  | some b => if Point.decode? c b = some q then return curve c d q else throw .inconsistent

/-- A bit string inside the explicit tag one. -/
def taggedBits? (e : Tlv) : Option Bytes := do (← e.explicit? 1).bitString?

/-- The parts of a key on a curve: version, number, parameters and point. -/
def curveParts? (b : Bytes) : Option (Nat × Bytes × Option Tlv × Option Bytes) := do
  match ← (← Tlv.strict? b).strictSequence? with
  | version :: number :: rest =>
    let version ← version.natural?
    let number ← number.octetString?
    let (parameters, rest) ← match Tlv.splitContext 0 rest with
      | (none, rest) => some (none, rest)
      | (some e, rest) => (e.explicit? 0).map fun inner => (some inner, rest)
    match rest with
    | [] => some (version, number, parameters, none)
    | [point] => some (version, number, parameters, some (← taggedBits? point))
    | _ => none
  | _ => none

/-- A key on a curve in its older form, with the parameters of its wrapping if it has one. -/
def readCurve (outer : Option Tlv) (b : Bytes) : Except PrivateKeyProblem PrivateKey := do
  let (version, number, inner, point) ← orElse .malformed (curveParts? b)
  if version ≠ 1 then throw .inconsistent
  ofNumber (← agreedCurve outer inner) number.toNat point

/-- A key of octets. -/
def readOctets (k : OctetKey) (b : Bytes) : Except PrivateKeyProblem PrivateKey := do
  let secret ← orElse .malformed ((Tlv.strict? b).bind Tlv.octetString?)
  if secret.length = k.size then return octets k secret else throw .malformed

/-- A bare exponent in the group that parameters describe. -/
def readExponent (parameters : Option Tlv) (b : Bytes) : Except PrivateKeyProblem PrivateKey := do
  let x ← orElse .malformed ((Tlv.strict? b).bind Tlv.natural?)
  match ← orElse .malformed (parameters.bind Algorithm.naturals?) with
  | [p, q, g] => return dsa p q g (powMod g x p) x
  | _ => throw .malformed

/-- The parts of the common wrapping: version, algorithm and key. -/
def wrappedParts? (b : Bytes) : Option (Nat × Algorithm × Bytes) := do
  match ← (← Tlv.strict? b).strictSequence? with
  | version :: algorithm :: key :: rest =>
    let attributesFit := match rest with
      | [] => true
      | [e] => (e.context? .distinguished 0).isSome
      | _ => false
    if attributesFit then
      some (← version.natural?, ← Algorithm.ofTlv? algorithm, ← key.octetString?)
    else none
  | _ => none

/-- A key in the common wrapping. -/
def readWrapped (b : Bytes) : Except PrivateKeyProblem PrivateKey := do
  let (version, algorithm, key) ← orElse .malformed (wrappedParts? b)
  if version ≠ 0 then throw .malformed
  let oid := algorithm.oid
  if oid = Algorithm.rsa ∨ oid = Algorithm.rsaProbabilistic then readRsa key
  else if oid = Algorithm.curve then
    match algorithm.parameters with
    | some parameters => readCurve (some parameters) key
    | none => throw .malformed
  else if oid = Algorithm.dsa then readExponent algorithm.parameters key
  else
    match OctetKey.all.find? (·.oid = oid) with
    | some k => readOctets k key
    | none => throw .unsupported

/-- The labels of private keys. -/
def labels : List String :=
  ["PRIVATE KEY", "ENCRYPTED PRIVATE KEY", "RSA PRIVATE KEY", "EC PRIVATE KEY", "DSA PRIVATE KEY"]

/-- The key in a block, as its label says. -/
def ofBlock (block : Pem.Block) : Except PrivateKeyProblem PrivateKey := do
  match block.header? "Proc-Type" with
  | none => pure ()
  | some "4,ENCRYPTED" => throw .passwordMissing
  | some _ => throw .headerInvalid
  if block.label = "ENCRYPTED PRIVATE KEY" then throw .passwordMissing
  else if block.label = "RSA PRIVATE KEY" then readRsa block.contents
  else if block.label = "EC PRIVATE KEY" then readCurve none block.contents
  else if block.label = "DSA PRIVATE KEY" then readDsa block.contents
  else readWrapped block.contents

/-- A key that needs no password, refused if one is given. -/
def unlocked (password : Option Bytes) (key : PrivateKey) : Except PrivateKeyProblem PrivateKey :=
  if password.isSome then .error .passwordUnused else .ok key

/-- The key in a series of blocks. -/
def ofPem (password : Option Bytes) (b : Bytes) : Except PrivateKeyProblem PrivateKey := do
  let blocks ← (Pem.readAll b).mapError .framing
  let block ← orElse .noKeyBlock (blocks.find? fun block => labels.contains block.label)
  unlocked password (← ofBlock block)

/-- The key in octets: the first of the forms that they can be read in. -/
def ofDer (password : Option Bytes) (b : Bytes) : Except PrivateKeyProblem PrivateKey :=
  match readWrapped b, readCurve none b, readRsa b, readDsa b with
  | .ok key, _, _, _ | .error _, .ok key, _, _ | .error _, .error _, .ok key, _
  | .error _, .error _, .error _, .ok key => unlocked password key
  | .error _, .error _, .error _, .error _ => .error .malformed

/-- The signature over a message, for the two kinds that sign; `none` if the key refuses. -/
def sign? (key : PrivateKey) (f : HashFunction) (message : Bytes) : Option Bytes :=
  match key with
  | rsa n _ d => Rsa.sign? n d f message
  | curve c d _ => Ecdsa.sign? c d f message
  | _ => none

end PrivateKey

end ImageSigning
