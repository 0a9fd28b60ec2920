import ImageSigning.Fault

/-!
# What a certificate says about its key

A short description of a certificate's key: whose it is, what kind it is, and for the two kinds that
sign, how large it is and on which curve.
-/

namespace ImageSigning

/-- A description of a certificate's key. -/
structure KeySummary where
  /-- Whose key it is. -/
  subject : String
  /-- The serial number of the certificate. -/
  serial : Int
  /-- The kind of key. -/
  kind : String
  /-- The algorithm, for the kinds that sign. -/
  algorithm : Option String
  /-- Bits of the key, for the kinds that sign. -/
  bits : Option Nat
  /-- The name of the curve. -/
  curve : Option String
  deriving DecidableEq, Repr

/-- The algorithm of a key that signs. -/
def PublicKey.algorithm? : PublicKey → Option String
  | rsa _ _ => some "RSA"
  | curve _ _ => some "ECDSA"
  | _ => none

/-- Bits of a key that signs. -/
def PublicKey.bits? : PublicKey → Option Nat
  | rsa n _ => some (if n = 0 then 0 else n.log2 + 1)
  | curve c _ => some c.bits
  | _ => none

/-- The name of a key's curve. -/
def PublicKey.curve? : PublicKey → Option String
  | curve c _ => some c.name
  | _ => none

/-- The description of a certificate's key. -/
def Certificate.keySummary (c : Certificate) : Except Defect KeySummary := do
  let key ← c.publicKey.mapError .publicKey
  let subject ← c.subject.show.mapError .name
  return ⟨subject, c.serial, key.kind, key.algorithm?, key.bits?, key.curve?⟩

/-- The algorithm of the described key, or its kind. -/
def KeySummary.label (s : KeySummary) : String := s.algorithm.getD s.kind

end ImageSigning
