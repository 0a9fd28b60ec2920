import ImageSigning.Der.Tlv
import ImageSigning.Signature.Identifiers

/-!
# Reading signed data

The records that a signature consists of and their readers. Readers follow the basic rules and check
tags, order and number of the components. What is kept as octets (certificates, attributes, issuer
names, parameters) may be any element but the one that ends contents of indefinite length.

* `ContentInfo.read?` takes the leading element and returns what follows it.
* The content of a `ContentInfo` is everything inside its explicit tag; where the tag is missing, the
  element in its place is the content.
-/

namespace ImageSigning.Signature

open Der

/-- An element kept as it is, unless it carries the end-of-contents tag. -/
def keep? (e : Tlv) : Option Bytes := if e.isEndOfContents then none else some e.whole

/-- The identifier in an OBJECT IDENTIFIER element. -/
def readOid? (e : Tlv) : Option Oid := do (← e.primitive? 6) |> Oid.decode?

/-- The number in an INTEGER element. -/
def readInteger? (e : Tlv) : Option Int := (e.primitive? 2).map integerValue

/-- The identifier of an algorithm; its parameters, if any, are not looked at. -/
def readAlgorithm? (e : Tlv) : Option Oid := do
  match ← e.sequence? .basic with
  | [oid] => readOid? oid
  | [oid, parameters] =>
    let _ ← keep? parameters
    readOid? oid
  | _ => none

/-- A typed content. -/
structure ContentInfo where
  /-- Type of the content. -/
  contentType : Oid
  /-- The content, where there is one. -/
  content : Option Bytes
  deriving DecidableEq, Repr

/-- The content behind an explicit tag, or the element itself. -/
def readContent? (e : Tlv) : Option Bytes :=
  if e.isContext 0 then some e.content else keep? e

/-- A typed content from its element. -/
def ContentInfo.ofTlv? (e : Tlv) : Option ContentInfo := do
  match ← e.sequence? .basic with
  | [type] => some ⟨← readOid? type, none⟩
  | [type, content] => some ⟨← readOid? type, some (← readContent? content)⟩
  | _ => none

/-- The typed content that the octets begin with, the octets of its element, and what follows. -/
def ContentInfo.read? (b : Bytes) : Option (ContentInfo × Bytes × Bytes) := do
  let (e, rest) ← Tlv.read? .basic b
  some (← ContentInfo.ofTlv? e, e.whole, rest)

/-- The digest that a content binds. -/
structure BoundDigest where
  /-- Identifier of the digest's algorithm. -/
  algorithm : Oid
  /-- Octets of the digest. -/
  octets : Bytes
  deriving DecidableEq, Repr

/-- The bound digest in the element that a content begins with; what follows is not looked at. -/
def BoundDigest.read? (b : Bytes) : Option BoundDigest := do
  let (e, _) ← Tlv.read? .basic b
  match ← e.sequence? .basic with
  | [data, digest] =>
    let _ ← match ← data.sequence? .basic with
      | [type] => (readOid? type).map fun _ => ()
      | [type, value] => (readOid? type).bind fun _ => (keep? value).map fun _ => ()
      | _ => none
    match ← digest.sequence? .basic with
    | [algorithm, octets] => some ⟨← readAlgorithm? algorithm, ← octets.primitive? 4⟩
    | _ => none
  | _ => none

/-- What a signer contributes. -/
structure SignerInfo where
  /-- The issuer name of the signer's certificate, as an element. -/
  issuer : Bytes
  /-- The serial number of the signer's certificate. -/
  serial : Int
  /-- The authenticated attributes, where there are any. -/
  attributes : Option (List Bytes)
  /-- The signature algorithm. -/
  signatureAlgorithm : Oid
  /-- The signature value. -/
  signature : Bytes
  deriving DecidableEq, Repr

/-- The elements of a set under the context-specific tag `n`, each kept as it is. -/
def keepMembers? (n : Nat) (e : Tlv) : Option (List Bytes) := do
  (← e.context? .basic n).mapM keep?

/-- Splits off an optional set under the context-specific tag `n`. -/
def optionalSet? (n : Nat) : List Tlv → Option (Option (List Bytes) × List Tlv)
  | e :: rest =>
    if e.isContext n then do
      let members ← keepMembers? n e
      some (some members, rest)
    else some (none, e :: rest)
  | [] => some (none, [])

/-- A signer from its element. -/
def SignerInfo.ofTlv? (e : Tlv) : Option SignerInfo := do
  match ← e.sequence? .basic with
  | version :: certificate :: digestAlgorithm :: rest =>
    let _ ← readInteger? version
    let (issuer, serial) ← match ← certificate.sequence? .basic with
      | [issuer, serial] => (keep? issuer).bind fun i => (readInteger? serial).map fun s => (i, s)
      | _ => none
    let _ ← readAlgorithm? digestAlgorithm
    let (attributes, rest) ← optionalSet? 0 rest
    match rest with
    | algorithm :: value :: rest =>
      let algorithm ← readAlgorithm? algorithm
      let value ← value.primitive? 4
      let (_, rest) ← optionalSet? 1 rest
      if rest.isEmpty then some ⟨issuer, serial, attributes, algorithm, value⟩ else none
    | _ => none
  | _ => none

/-- Signed data. -/
structure SignedData where
  /-- The content that is signed. -/
  contentInfo : ContentInfo
  /-- The certificates, each as an element. -/
  certificates : List Bytes
  /-- The signers. -/
  signers : List SignerInfo
  deriving DecidableEq, Repr

/-- The signed data in the element that a content begins with; what follows is not looked at. -/
def SignedData.read? (b : Bytes) : Option SignedData := do
  let (e, _) ← Tlv.read? .basic b
  match ← e.sequence? .basic with
  | version :: algorithms :: contentInfo :: rest =>
    let _ ← readInteger? version
    let _ ← (← algorithms.set? .basic).mapM readAlgorithm?
    let contentInfo ← ContentInfo.ofTlv? contentInfo
    let (certificates, rest) ← optionalSet? 0 rest
    let (_, rest) ← optionalSet? 1 rest
    match rest with
    | [signers] =>
      let signers ← (← signers.set? .basic).mapM SignerInfo.ofTlv?
      some ⟨contentInfo, certificates.getD [], signers⟩
    | _ => none
  | _ => none

end ImageSigning.Signature
