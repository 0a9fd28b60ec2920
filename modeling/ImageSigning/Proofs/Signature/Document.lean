import ImageSigning.Proofs.Signature.Content

/-!
# Signatures read component by component

Whoever verifies a signature reads it without knowing how it was made. `Document.read?` is such a
reader: it goes by the structure of signed data alone, under either rule, keeps every component, and
refuses whatever is left over. It shares with the rest of the library only the reading of elements and
of the values inside them.

* **`Document.read?`** — the components of signed data.
* **`BoundField.ofTlv?`** — the components of the content that binds a digest.
* **`SignerField.valuesOf`** — the values of the authenticated attributes of a type.
-/

namespace ImageSigning.Signature

open Der Tlv

/-- An algorithm with its parameters as an element, where there are any. -/
structure AlgorithmField where
  /-- Identifier of the algorithm. -/
  oid : Oid
  /-- The parameters. -/
  parameters : Option Bytes
  deriving DecidableEq

/-- The algorithm of the key, with NULL for parameters only where it is RSA. -/
def keyAlgorithmField (oid : Oid) : AlgorithmField :=
  if oid = rsaOid then ⟨oid, some null⟩ else ⟨oid, none⟩

/-- An attribute with its values as elements. -/
structure AttributeField where
  /-- What the attribute is about. -/
  type : Oid
  /-- The values. -/
  values : List Bytes
  deriving DecidableEq

/-- A signer. -/
structure SignerField where
  /-- Version of the structure. -/
  version : Int
  /-- The issuer of the signer's certificate. -/
  issuer : Bytes
  /-- The serial number of the signer's certificate. -/
  serial : Int
  /-- The algorithm that the content is digested with. -/
  digestAlgorithm : AlgorithmField
  /-- The element of the authenticated attributes, and the attributes in it. -/
  attributes : Option (Bytes × List AttributeField)
  /-- The algorithm of the key. -/
  signatureAlgorithm : AlgorithmField
  /-- The signature value. -/
  value : Bytes
  /-- The element of the attributes that are not authenticated. -/
  unauthenticated : Option Bytes
  deriving DecidableEq

/-- Signed data. -/
structure Document where
  /-- Version of the structure. -/
  version : Int
  /-- The algorithms that contents are digested with. -/
  digestAlgorithms : List AlgorithmField
  /-- Type of the content. -/
  contentType : Oid
  /-- The content. -/
  content : Option Tlv
  /-- The certificates. -/
  certificates : Option (List Bytes)
  /-- The element of the revocation lists. -/
  revocations : Option Bytes
  /-- The signers. -/
  signers : List SignerField

/-- The content that binds a digest. -/
structure BoundField where
  /-- The kind of data. -/
  dataType : Oid
  /-- The description of the data. -/
  description : Option Bytes
  /-- The algorithm of the digest. -/
  algorithm : AlgorithmField
  /-- The digest. -/
  octets : Bytes
  deriving DecidableEq

section
variable (rules : Rules)

/-- An algorithm from its element. -/
def AlgorithmField.ofTlv? (e : Tlv) : Option AlgorithmField := do
  match ← e.sequence? rules with
  | [oid] => some ⟨← readOid? oid, none⟩
  | [oid, parameters] => some ⟨← readOid? oid, some parameters.whole⟩
  | _ => none

/-- An attribute from its element. -/
def AttributeField.ofTlv? (e : Tlv) : Option AttributeField := do
  match ← e.sequence? rules with
  | [type, values] => some ⟨← readOid? type, (← values.set? rules).map (·.whole)⟩
  | _ => none

/-- A type and the element behind an explicit tag, where there is one. -/
def typedElement? (e : Tlv) : Option (Oid × Option Tlv) := do
  match ← e.sequence? rules with
  | [type] => some (← readOid? type, none)
  | [type, tagged] =>
    match ← tagged.context? rules 0 with
    | [content] => some (← readOid? type, some content)
    | _ => none
  | _ => none

/-- Issuer and serial number from their element. -/
def certificateName? (e : Tlv) : Option (Bytes × Int) := do
  match ← e.sequence? rules with
  | [issuer, serial] => some (issuer.whole, ← readInteger? serial)
  | _ => none

/-- The attributes in their element, where there is one. -/
def attributeSet? : Option Tlv → Option (Option (Bytes × List AttributeField))
  | none => some none
  | some e => do
    some (some (e.whole, ← (← e.members? rules).mapM (AttributeField.ofTlv? rules)))

/-- A signer from its element. -/
def SignerField.ofTlv? (e : Tlv) : Option SignerField := do
  match ← e.sequence? rules with
  | version :: name :: digestAlgorithm :: rest =>
    let (attributes, rest) := Tlv.splitContext 0 rest
    match rest with
    | algorithm :: value :: rest =>
      let (unauthenticated, rest) := Tlv.splitContext 1 rest
      if rest ≠ [] then none
      let (issuer, serial) ← certificateName? rules name
      some {
        version := ← readInteger? version
        issuer
        serial
        digestAlgorithm := ← AlgorithmField.ofTlv? rules digestAlgorithm
        attributes := ← attributeSet? rules attributes
        signatureAlgorithm := ← AlgorithmField.ofTlv? rules algorithm
        value := ← value.primitive? 4
        unauthenticated := unauthenticated.map (·.whole) }
    | _ => none
  | _ => none

/-- The certificates in their element, where there is one. -/
def certificateSet? : Option Tlv → Option (Option (List Bytes))
  | none => some none
  | some e => do some (some ((← e.members? rules).map (·.whole)))

/-- Signed data from its element. -/
def Document.ofTlv? (e : Tlv) : Option Document := do
  match ← e.sequence? rules with
  | version :: algorithms :: info :: rest =>
    let (certificates, rest) := Tlv.splitContext 0 rest
    let (revocations, rest) := Tlv.splitContext 1 rest
    match rest with
    | [signers] =>
      let (contentType, content) ← typedElement? rules info
      some {
        version := ← readInteger? version
        digestAlgorithms := ← (← algorithms.set? rules).mapM (AlgorithmField.ofTlv? rules)
        contentType
        content
        certificates := ← certificateSet? rules certificates
        revocations := revocations.map (·.whole)
        signers := ← (← signers.set? rules).mapM (SignerField.ofTlv? rules) }
    | _ => none
  | _ => none

/-- The signed data that octets are, with nothing before or behind it. -/
def Document.read? (b : Bytes) : Option Document := do
  match ← typedElement? rules (← Tlv.readOnly? rules b) with
  | (type, some data) => if type = signedDataOid then Document.ofTlv? rules data else none
  | _ => none

/-- The content that binds a digest, from its element. -/
def BoundField.ofTlv? (e : Tlv) : Option BoundField := do
  match ← e.sequence? rules with
  | [data, digest] =>
    let (dataType, description) ← match ← data.sequence? rules with
      | [type] => (readOid? type).map fun o => (o, none)
      | [type, value] => (readOid? type).map fun o => (o, some value.whole)
      | _ => none
    match ← digest.sequence? rules with
    | [algorithm, octets] =>
      some ⟨dataType, description, ← AlgorithmField.ofTlv? rules algorithm, ← octets.primitive? 4⟩
    | _ => none
  | _ => none

end

/-- The values of the authenticated attributes of a type, attribute by attribute. -/
def SignerField.valuesOf (s : SignerField) (type : Oid) : List (List Bytes) :=
  match s.attributes with
  | none => []
  | some (_, fields) => (fields.filter (·.type = type)).map (·.values)

/-! ## Reading what was written -/

section
variable {rules : Rules}

/-- An algorithm with NULL for parameters is read with it. -/
theorem AlgorithmField.ofTlv?_of_null {e o : Tlv} {oid : Oid}
    (members : e.sequence? rules = some [o, made 0x05 []]) (read : readOid? o = some oid) :
    AlgorithmField.ofTlv? rules e = some ⟨oid, some null⟩ := by
  have whole : element 0x05 [] = null := by decide
  simp [AlgorithmField.ofTlv?, members, read, whole]

/-- An algorithm without parameters is read without. -/
theorem AlgorithmField.ofTlv?_of_bare {e o : Tlv} {oid : Oid}
    (members : e.sequence? rules = some [o]) (read : readOid? o = some oid) :
    AlgorithmField.ofTlv? rules e = some ⟨oid, none⟩ := by
  simp [AlgorithmField.ofTlv?, members, read]

/-- A type with tagged octets that are one element. -/
theorem typedElement?_of_members {e o inner : Tlv} {type : Oid} {content : Bytes}
    (members : e.sequence? rules = some [o, made 0xa0 content]) (read : readOid? o = some type)
    (here : Denotes rules content inner) : typedElement? rules e = some (type, some inner) := by
  have inside : (made 0xa0 content).context? rules 0 = some [inner] := by
    rw [context?_made, readMany?_of_denotes here]
  unfold typedElement?
  rw [members]
  simp [inside, read]

/-- The content that binds a digest holds algorithm and octets of the digest. -/
theorem BoundField.ofTlv?_bind (d : Digest) :
    ∃ e, Denotes rules (bind d) e ∧ content? (bind d) = some e.content ∧
      BoundField.ofTlv? rules e = some
        ⟨imageDataOid, some obsoleteDescription, ⟨d.algorithm.oid, some null⟩, d.octets⟩ := by
  obtain ⟨e, data, digest, here, stripped, members, ⟨o, v, dataMembers, type, kept⟩, a, q,
    digestMembers, algorithmMembers, algorithm⟩ := @denotes_bind rules d
  have value := whole_of_keep? kept
  have read := AlgorithmField.ofTlv?_of_null algorithmMembers algorithm
  refine ⟨e, here, stripped, ?_⟩
  simp [BoundField.ofTlv?, members, dataMembers, type, value, digestMembers, read,
    primitive?_octetString]

/-- Octets that are read as an attribute. -/
def IsAttribute (rules : Rules) (b : Bytes) (f : AttributeField) : Prop :=
  ∃ e, Denotes rules b e ∧ AttributeField.ofTlv? rules e = some f

/-- An attribute that is written with one value is read as it. -/
theorem isAttribute_attributeElement {type : Oid} {value : Bytes} (writable : type.encode?.isSome)
    (short : (attributeElement (identifier type) value).length < rules.lengthLimit)
    (single : ∃ e, Denotes rules value e) :
    IsAttribute rules (attributeElement (identifier type) value) ⟨type, [value]⟩ := by
  obtain ⟨v, inside⟩ := single
  have setShort : (element 0x31 value).length < rules.lengthLimit :=
    lt_trans (length_lt_sequence (by simp)) short
  obtain ⟨o, typeHere, read⟩ := readOid?_identifier writable
    (lt_trans (@length_lt_sequence (identifier type) _ (by simp)) short)
  have setHere : Denotes rules (element 0x31 value) (made 0x31 value) :=
    denotes_made (by decide) setShort
  obtain ⟨here, members⟩ :=
    denotes_sequence (length_content_lt short) (.cons typeHere (.cons setHere .nil))
  have values : (made 0x31 value).set? rules = some [v] := by
    rw [set?_made, readMany?_of_denotes inside]
  refine ⟨_, here, ?_⟩
  unfold AttributeField.ofTlv?
  rw [members]
  simp [read, values, inside.whole_eq]

/-- Attributes one after the other are read one by one. -/
theorem exists_mapM_of_isAttribute {bs : List Bytes} {fs : List AttributeField}
    (h : List.Forall₂ (IsAttribute rules) bs fs) :
    ∃ es, List.Forall₂ (Denotes rules) bs es ∧ es.mapM (AttributeField.ofTlv? rules) = some fs := by
  induction h with
  | nil => exact ⟨[], .nil, rfl⟩
  | cons here _ ih =>
    obtain ⟨e, denotes, read⟩ := here
    obtain ⟨es, members, others⟩ := ih
    refine ⟨e :: es, .cons denotes members, ?_⟩
    rw [List.mapM_cons, read, others]
    rfl

/-- A field with the tag is taken off. -/
theorem splitContext_of_isContext {n : Nat} {e : Tlv} (rest : List Tlv)
    (h : e.isContext n = true) : Tlv.splitContext n (e :: rest) = (some e, rest) := by
  simp [Tlv.splitContext, h]

/-- Without a field with the tag nothing is taken off. -/
theorem splitContext_of_not_isContext {n : Nat} {e : Tlv} (rest : List Tlv)
    (h : e.isContext n = false) : Tlv.splitContext n (e :: rest) = (none, e :: rest) := by
  simp [Tlv.splitContext, h]

/-- The members of a tagged field are the elements of its content. -/
theorem members?_made_a0 (content : Bytes) :
    (made 0xa0 content).members? rules = readMany? rules content := by
  have form : (0xa0 : UInt8) &&& 0x20 ≠ 0 := by decide
  simp [members?, made, form]

end

end ImageSigning.Signature
