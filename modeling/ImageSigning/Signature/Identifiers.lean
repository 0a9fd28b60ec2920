import ImageSigning.Der.SetOrder

/-!
# Identifiers and attributes of signatures

The identifiers that name the parts of an Authenticode signature, and the writing of an identifier or
of an algorithm with its parameters.

A signer signs a set of attributes. Inside the signature the set carries an implicit tag; the octets
that are signed carry the tag of a universal SET in its place, and are otherwise the same.

* `signedForm_eq`: the signed octets differ from the embedded ones in the first octet only.
-/

namespace ImageSigning.Signature

/-- Signed data, the outermost content type. -/
def signedDataOid : Oid := [1, 2, 840, 113549, 1, 7, 2]

/-- The attribute that repeats the content type. -/
def contentTypeOid : Oid := [1, 2, 840, 113549, 1, 9, 3]

/-- The attribute that holds the digest of the content. -/
def messageDigestOid : Oid := [1, 2, 840, 113549, 1, 9, 4]

/-- The content that binds an image's digest. -/
def indirectDataOid : Oid := [1, 3, 6, 1, 4, 1, 311, 2, 1, 4]

/-- The attribute for a description of the program, empty here. -/
def programInfoOid : Oid := [1, 3, 6, 1, 4, 1, 311, 2, 1, 12]

/-- The kind of data that is bound: an image. -/
def imageDataOid : Oid := [1, 3, 6, 1, 4, 1, 311, 2, 1, 15]

/-- RSA, as key and as signature algorithm. -/
def rsaOid : Oid := [1, 2, 840, 113549, 1, 1, 1]

/-- An identifier as an element. The identifiers of this library and those read from an element can
all be written; one that cannot is left without content. -/
def identifier (oid : Oid) : Bytes := Der.element 0x06 (oid.encode?.getD [])

/-- An algorithm without parameters. -/
def bareAlgorithm (oid : Oid) : Bytes := Der.sequence [identifier oid]

/-- An algorithm with NULL for parameters. -/
def algorithmWithNull (oid : Oid) : Bytes := Der.sequence [identifier oid, Der.null]

/-! ### Authenticated attributes -/

/-- The attribute with the given type and one finished value. -/
def attributeElement (type value : Bytes) : Bytes := Der.sequence [type, Der.element 0x31 value]

/-- The attribute whose type is given as text, if that names an identifier. -/
def attributeOfText? (oid : String) (value : Bytes) : Option Bytes := do
  let arcs ← Oid.ofText? oid
  let type ← Der.objectIdentifier? arcs
  some (attributeElement type value)

/-- The attributes as they stand inside a signature. -/
def embeddedForm (attributes : List Bytes) : Bytes := Der.setOf 0xa0 attributes

/-- The attributes as they are signed. -/
def signedForm (attributes : List Bytes) : Bytes := 0x31 :: (embeddedForm attributes).drop 1

/-- The signed octets are those of the same set under the universal tag. -/
theorem signedForm_eq (attributes : List Bytes) :
    signedForm attributes = Der.setOf 0x31 attributes := rfl

end ImageSigning.Signature
