import ImageSigning.Certificate.Algorithm
import ImageSigning.Certificate.Name
import ImageSigning.Certificate.Validity

/-!
# Certificates

A certificate binds a name to a public key. It is kept as the octets that it was read from, with the
few parts that signatures refer to: the serial number, the two names, and the element that holds the
public key. Reading checks the whole structure under the distinguished rules; the version is looked
at last, so that a certificate of a version that does not exist is told from one that is malformed.

* `ofDer_der`: a certificate is kept as the octets that it was read from.
-/

namespace ImageSigning

open Der

/-- Why a certificate is refused. -/
inductive CertificateProblem where
  | malformed
  | unknownVersion
  deriving DecidableEq, Repr

/-- A certificate. -/
structure Certificate where
  /-- The octets of the certificate. -/
  der : Bytes
  /-- The serial number. -/
  serial : Int
  /-- Who issued the certificate. -/
  issuer : Name
  /-- Whose key the certificate holds. -/
  subject : Name
  /-- The algorithm of the public key. -/
  keyAlgorithm : Algorithm
  /-- The octets of the public key. -/
  keyOctets : Bytes
  deriving DecidableEq, Repr

namespace Certificate

/-- An optional version, one if it is missing; one may not be written. -/
def splitVersion? (parts : List Tlv) : Option (Nat × List Tlv) :=
  match Tlv.splitContext 0 parts with
  | (none, rest) => some (0, rest)
  | (some e, rest) => do
    let version ← (← e.explicit? 0).natural?
    if version = 0 ∨ 255 < version then none else some (version, rest)

/-- An optional bit string under the context-specific tag `n`. -/
def splitUniqueId? (n : Nat) (parts : List Tlv) : Option (List Tlv) :=
  match Tlv.splitContext n parts with
  | (none, rest) => some rest
  | (some e, rest) => do
    if e.constructed then none
    else
      let _ ← Tlv.bits? e.content
      some rest

/-- Whether an element is an extension: an identifier, a flag unless it is unset, and octets. -/
def isExtension (e : Tlv) : Bool :=
  match e.strictSequence? with
  | some [oid, value] => oid.strictOid?.isSome && value.octetString?.isSome
  | some [oid, critical, value] =>
    oid.strictOid?.isSome && critical.boolean? = some true && value.octetString?.isSome
  | _ => false

/-- Whether the elements that are left are nothing or extensions under their tag. -/
def areExtensions (parts : List Tlv) : Bool :=
  match parts with
  | [] => true
  | [e] =>
    match (e.explicit? 3).bind Tlv.strictSequence? with
    | some extensions => extensions.all isExtension
    | none => false
  | _ => false

/-- The key's algorithm and octets, from their element. -/
def publicKeyInfo? (e : Tlv) : Option (Algorithm × Bytes) := do
  match ← e.strictSequence? with
  | [algorithm, key] => some (← Algorithm.ofTlv? algorithm, ← key.bitString?)
  | _ => none

/-- The version and the certificate with the given octets, from the element that is signed. -/
def ofBody? (der : Bytes) (body : Tlv) : Option (Nat × Certificate) := do
  let (version, parts) ← splitVersion? (← body.strictSequence?)
  match parts with
  | serial :: algorithm :: issuer :: validity :: subject :: key :: rest =>
    let serial ← serial.strictInteger?
    let _ ← Algorithm.ofTlv? algorithm
    let issuer ← Name.ofTlv? issuer
    if !Validity.isValidity validity then none
    let subject ← Name.ofTlv? subject
    let (keyAlgorithm, keyOctets) ← publicKeyInfo? key
    let rest ← splitUniqueId? 1 rest
    let rest ← splitUniqueId? 2 rest
    if !areExtensions rest then none
    some (version, ⟨der, serial, issuer, subject, keyAlgorithm, keyOctets⟩)
  | _ => none

/-- The version and the certificate in octets. -/
def read? (der : Bytes) : Option (Nat × Certificate) := do
  match ← (← Tlv.strict? der).strictSequence? with
  | [body, algorithm, signature] =>
    let result ← ofBody? der body
    let _ ← Algorithm.ofTlv? algorithm
    let _ ← signature.bitString?
    some result
  | _ => none

/-- The certificate in octets: the first or the third version. -/
def ofDer (der : Bytes) : Except CertificateProblem Certificate :=
  match read? der with
  | none => .error .malformed
  | some (version, c) => if version = 0 ∨ version = 2 then .ok c else .error .unknownVersion

/-- A certificate that is read keeps the octets that it was read from. -/
theorem ofBody?_der {der : Bytes} {body : Tlv} {version : Nat} {c : Certificate}
    (h : ofBody? der body = some (version, c)) : c.der = der := by
  simp only [ofBody?, Option.bind_eq_bind, Option.bind_eq_some_iff] at h
  obtain ⟨_, _, ⟨v, parts⟩, _, h⟩ := h
  split at h
  · simp only [Option.bind_eq_some_iff] at h
    obtain ⟨_, _, _, _, _, _, h⟩ := h
    split at h
    · simp at h
    · simp only [Option.bind_eq_some_iff] at h
      obtain ⟨_, _, _, _, _, _, _, _, h⟩ := h
      split at h
      · simp at h
      · simp only [Option.some.injEq, Prod.mk.injEq] at h
        rw [← h.2]
  · simp at h

/-- A certificate is kept as the octets that it was read from. -/
theorem ofDer_der {der : Bytes} {c : Certificate} (h : ofDer der = .ok c) : c.der = der := by
  simp only [ofDer] at h
  split at h
  · simp at h
  · rename_i version c' found
    split at h
    · obtain rfl := Except.ok.inj h
      simp only [read?, Option.bind_eq_bind, Option.bind_eq_some_iff] at found
      obtain ⟨_, _, _, _, found⟩ := found
      split at found
      · simp only [Option.bind_eq_some_iff] at found
        obtain ⟨result, body, _, _, _, _, eq⟩ := found
        exact ofBody?_der (by rw [body, Option.some.inj eq])
      · simp at found
    · simp at h

end Certificate

end ImageSigning
