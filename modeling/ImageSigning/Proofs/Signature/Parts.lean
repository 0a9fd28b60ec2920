import ImageSigning.Proofs.Certificate
import ImageSigning.Proofs.Der.Order
import ImageSigning.Signature.Building

/-!
# The parts of a signature, read back

Every part that a signature is written from is read back as it was given, under either rule, as long
as the part is short enough for the rule to announce its length. Certificates, attributes and issuer
names only have to be single elements; what is inside them does not matter.

* **`IsKept`** — octets that are one element which may stand inside a signature.
* **`denotes_sequence`**, **`denotes_setOf`** — what is written around elements has them as members.
* **`denotes_contentInfo`**, **`denotes_signerInfo`** — a typed content and a signer.
* **`denotes_signedData`** — the signed data.
* **`AreWrittenAlike.encode_eq`** — what the octets depend on.
-/

namespace ImageSigning.Signature

open Der Tlv

variable {rules : Rules}

/-! ## Elements around elements -/

/-- An element is longer than its content. -/
theorem length_lt_element (identifier : UInt8) (content : Bytes) :
    content.length < (element identifier content).length := by
  rw [length_element]
  omega

/-- All parts together are at least as long as each. -/
theorem length_le_flatten {b : Bytes} {parts : List Bytes} (h : b ∈ parts) :
    b.length ≤ parts.flatten.length := by
  obtain ⟨before, after, rfl⟩ := List.append_of_mem h
  simp
  omega

/-- A sequence is longer than each of its parts. -/
theorem length_lt_sequence {b : Bytes} {parts : List Bytes} (h : b ∈ parts) :
    b.length < (Der.sequence parts).length :=
  lt_of_le_of_lt (length_le_flatten h) (length_lt_element 0x30 _)

/-- A set is longer than each of its members. -/
theorem length_lt_setOf {b : Bytes} {identifier : UInt8} {members : List Bytes}
    (h : b ∈ members) : b.length < (Der.setOf identifier members).length := by
  apply lt_of_le_of_lt (length_le_flatten h)
  rw [← length_flatten_ordered]
  exact length_lt_element identifier _

/-- An element that is written is read as what it was made of. -/
theorem denotes_made {identifier : UInt8} {content : Bytes}
    (single : identifier &&& 0x1f ≠ 0x1f)
    (h : (element identifier content).length < rules.lengthLimit) :
    Denotes rules (element identifier content) (made identifier content) :=
  denotes_element single (lt_trans (length_lt_element identifier content) h)

/-- What is written around elements is a SEQUENCE of them. -/
theorem denotes_sequence {parts : List Bytes} {es : List Tlv}
    (h : parts.flatten.length < rules.lengthLimit)
    (members : List.Forall₂ (Denotes rules) parts es) :
    Denotes rules (Der.sequence parts) (made 0x30 parts.flatten) ∧
      (made 0x30 parts.flatten).sequence? rules = some es := by
  refine ⟨denotes_element (by decide) h, ?_⟩
  rw [sequence?_made, readMany?_flatten members]

/-- The parts of a sequence are short enough if it is. -/
theorem length_content_lt {parts : List Bytes} (h : (Der.sequence parts).length < rules.lengthLimit) :
    parts.flatten.length < rules.lengthLimit := lt_trans (length_lt_element 0x30 _) h

/-- Octets that are one element which may stand inside a signature. -/
def IsKept (rules : Rules) (b : Bytes) : Prop :=
  ∃ e, Denotes rules b e ∧ e.isEndOfContents = false

/-- Octets that are read as a sequence are kept. -/
theorem isKept_of_isUniversal {b : Bytes}
    (h : ∃ e, Denotes .distinguished b e ∧ e.isUniversal 16 = true) : IsKept rules b := by
  obtain ⟨e, denotes, universal⟩ := h
  have other : e.isEndOfContents = false := by
    simp only [isUniversal, Bool.and_eq_true, decide_eq_true_eq] at universal
    simp [isEndOfContents, isUniversal, universal.2]
  cases rules
  · exact ⟨e, denotes.basic, other⟩
  · exact ⟨e, denotes, other⟩

/-- An element with a single octet for a tag that does not end the contents is kept. -/
theorem isKept_element {identifier : UInt8} {content : Bytes}
    (single : identifier &&& 0x1f ≠ 0x1f) (other : (made identifier content).isEndOfContents = false)
    (h : (element identifier content).length < rules.lengthLimit) :
    IsKept rules (element identifier content) :=
  ⟨_, denotes_made single h, other⟩

/-- An element that does not end the contents is kept as its octets. -/
theorem keep?_of_denotes {b : Bytes} {e : Tlv} (denotes : Denotes rules b e)
    (other : e.isEndOfContents = false) : keep? e = some b := by
  simp [keep?, other, denotes.whole_eq]

/-- What is kept of an element is its octets. -/
theorem whole_of_keep? {b : Bytes} {e : Tlv} (h : keep? e = some b) : e.whole = b := by
  unfold keep? at h
  split at h
  · simp at h
  · exact Option.some.inj h

/-- Elements that may be kept are read, and kept as they are. -/
theorem exists_forall₂_of_isKept {bs : List Bytes} (h : ∀ b ∈ bs, IsKept rules b) :
    ∃ es, List.Forall₂ (Denotes rules) bs es ∧ es.mapM keep? = some bs := by
  induction bs with
  | nil => exact ⟨[], .nil, rfl⟩
  | cons b bs ih =>
    obtain ⟨e, denotes, other⟩ := h b (by simp)
    obtain ⟨es, members, kept⟩ := ih fun c m => h c (by simp [m])
    refine ⟨e :: es, .cons denotes members, ?_⟩
    rw [List.mapM_cons, keep?_of_denotes denotes other, kept]
    rfl

/-- The members of a SET OF are read in its order. -/
theorem denotes_setOf {identifier : UInt8} {members : List Bytes}
    (single : identifier &&& 0x1f ≠ 0x1f)
    (h : (Der.setOf identifier members).length < rules.lengthLimit)
    (kept : ∀ b ∈ members, IsKept rules b) :
    Denotes rules (Der.setOf identifier members) (made identifier (ordered members).flatten) ∧
      ∃ es, List.Forall₂ (Denotes rules) (ordered members) es ∧
        es.mapM keep? = some (ordered members) := by
  refine ⟨denotes_made single h, exists_forall₂_of_isKept fun b m => ?_⟩
  exact kept b ((ordered_perm members).mem_iff.1 m)

/-! ## Identifiers and algorithms -/

/-- An identifier that is written is read. -/
theorem readOid?_identifier {oid : Oid} (writable : oid.encode?.isSome)
    (h : (identifier oid).length < rules.lengthLimit) :
    ∃ e, Denotes rules (identifier oid) e ∧ readOid? e = some oid := by
  obtain ⟨b, encoded⟩ := Option.isSome_iff_exists.1 writable
  have form : (6 : UInt8) &&& 32 = 0 := by decide
  unfold identifier at h ⊢
  rw [encoded, Option.getD_some] at h ⊢
  refine ⟨_, denotes_made (by decide) h, ?_⟩
  have content : (made 0x06 b).primitive? 6 = some b := by
    simp [primitive?, isUniversal, made, TagClass.ofOctet, form]
  rw [readOid?, content]
  exact Oid.decode?_encode? encoded

/-- The octets of NULL are read as an element without content. -/
theorem denotes_null : Denotes rules null (made 0x05 []) := by
  have written : null = element 0x05 [] := by decide
  have short : (element 0x05 []).length < rules.lengthLimit := by cases rules <;> decide
  rw [written]
  exact denotes_made (by decide) short

/-- An algorithm that is written with NULL for parameters is read back, and so is its identifier as
the first of two members. -/
theorem denotes_algorithmWithNull {oid : Oid} (writable : oid.encode?.isSome)
    (h : (algorithmWithNull oid).length < rules.lengthLimit) :
    ∃ e o, Denotes rules (algorithmWithNull oid) e ∧
      e.sequence? rules = some [o, made 0x05 []] ∧ readOid? o = some oid := by
  have shorter : (identifier oid).length < rules.lengthLimit :=
    lt_trans (length_lt_sequence (by simp)) h
  obtain ⟨o, denotes, read⟩ := readOid?_identifier writable shorter
  obtain ⟨here, members⟩ :=
    denotes_sequence (length_content_lt h) (.cons denotes (.cons denotes_null .nil))
  exact ⟨_, o, here, members, read⟩

/-- An algorithm without parameters is read as its identifier alone. -/
theorem denotes_bareAlgorithm {oid : Oid} (writable : oid.encode?.isSome)
    (h : (bareAlgorithm oid).length < rules.lengthLimit) :
    ∃ e o, Denotes rules (bareAlgorithm oid) e ∧
      e.sequence? rules = some [o] ∧ readOid? o = some oid := by
  have shorter : (identifier oid).length < rules.lengthLimit :=
    lt_trans (length_lt_sequence (by simp)) h
  obtain ⟨o, denotes, read⟩ := readOid?_identifier writable shorter
  obtain ⟨here, members⟩ := denotes_sequence (length_content_lt h) (.cons denotes .nil)
  exact ⟨_, o, here, members, read⟩

/-- The identifier of a digest algorithm can be written. -/
theorem writable_oid (a : DigestAlgorithm) : a.oid.encode?.isSome := by
  cases a <;> decide

/-- The identifier of an algorithm that was written with or without parameters. -/
theorem readAlgorithm?_of_members {e o : Tlv} {oid : Oid} (h : e.sequence? .basic = some [o] ∨
    e.sequence? .basic = some [o, made 0x05 []]) (read : readOid? o = some oid) :
    readAlgorithm? e = some oid := by
  have kept : keep? (made 0x05 []) = some null := by decide
  rcases h with members | members
  · simp [readAlgorithm?, members, read]
  · simp [readAlgorithm?, members, read, kept]

/-! ## Typed contents -/

/-- A field with the first tag has it. -/
theorem isContext_made_a0 (content : Bytes) : (made 0xa0 content).isContext 0 = true := by
  simp [isContext, made, TagClass.ofOctet]

/-- An element with a universal tag does not have any of these. -/
theorem isContext_made_universal {identifier : UInt8} (content : Bytes) (n : Nat)
    (universal : identifier < 0x40) : (made identifier content).isContext n = false := by
  simp [isContext, made, TagClass.ofOctet, universal]

/-- A typed content has its type and its content behind a tag as members. -/
theorem denotes_contentInfo {type : Oid} {content : Bytes} (writable : type.encode?.isSome)
    (h : [identifier type, explicit 0 content].flatten.length < rules.lengthLimit) :
    ∃ e o, Denotes rules (contentInfo type content) e ∧
      e.sequence? rules = some [o, made 0xa0 content] ∧ readOid? o = some type := by
  have typeShort : (identifier type).length < rules.lengthLimit :=
    lt_of_le_of_lt (length_le_flatten (by simp)) h
  have contentShort : (explicit 0 content).length < rules.lengthLimit :=
    lt_of_le_of_lt (length_le_flatten (by simp)) h
  obtain ⟨o, denotes, read⟩ := readOid?_identifier writable typeShort
  have inside : Denotes rules (explicit 0 content) (made 0xa0 content) :=
    denotes_made (by decide) contentShort
  obtain ⟨here, members⟩ := denotes_sequence h (.cons denotes (.cons inside .nil))
  exact ⟨_, o, here, members, read⟩

/-- A content is read with its type. -/
theorem ofTlv?_of_members {e o : Tlv} {type : Oid} {content : Bytes}
    (members : e.sequence? .basic = some [o, made 0xa0 content]) (read : readOid? o = some type) :
    ContentInfo.ofTlv? e = some ⟨type, some content⟩ := by
  simp [ContentInfo.ofTlv?, members, read, readContent?, isContext_made_a0]

/-! ## Optional sets -/

/-- A set that is not there is read as none. -/
theorem optionalSet?_eq_none {n : Nat} {e : Tlv} (rest : List Tlv) (h : e.isContext n = false) :
    optionalSet? n (e :: rest) = some (none, e :: rest) := by
  simp [optionalSet?, h]

/-- A set that is there is read with its members in order. -/
theorem optionalSet?_made {members : List Bytes} (rest : List Tlv)
    (h : (Der.setOf 0xa0 members).length < Rules.basic.lengthLimit)
    (kept : ∀ b ∈ members, IsKept .basic b) :
    optionalSet? 0 (made 0xa0 (ordered members).flatten :: rest)
      = some (some (ordered members), rest) := by
  obtain ⟨-, es, denotes, read⟩ := denotes_setOf (by decide) h kept
  have inside : (made 0xa0 (ordered members).flatten).context? .basic 0 = some es := by
    rw [context?_made, readMany?_flatten denotes]
  simp [optionalSet?, isContext_made_a0, keepMembers?, inside, read]

/-! ## Signers -/

/-- What has to hold of the parts of a signature for them to be read back: identifiers that can be
written, and single elements for what is kept as it is. -/
structure IsWritable (rules : Rules) (s : Signature) : Prop where
  contentType : s.contentType.encode?.isSome
  algorithm : s.algorithm.encode?.isSome
  issuer : IsKept rules s.signer.issuer.whole
  attributes : ∀ a ∈ s.attributes, IsKept rules a
  certificates : ∀ c ∈ s.certificates, IsKept rules c.der

/-- The element that names the signer's certificate. -/
def signerName (s : Signature) : Bytes :=
  Der.sequence [s.signer.issuer.whole, integer s.signer.serial]

/-- The element that names the algorithm of the key. -/
def signerAlgorithm (s : Signature) : Bytes :=
  if s.algorithm = rsaOid then algorithmWithNull s.algorithm else bareAlgorithm s.algorithm

/-- The attributes as an element, if there are any. -/
def signerAttributes (s : Signature) : List Bytes :=
  if s.attributes.isEmpty then [] else [embeddedForm s.attributes]

/-- The elements of a signer. -/
def signerParts (s : Signature) : List Bytes :=
  [integer 1, signerName s, algorithmWithNull s.digest.algorithm.oid] ++ signerAttributes s
    ++ [signerAlgorithm s, octetString s.value]

/-- The information on a signer is a sequence of its parts. -/
theorem signerInfo_eq (s : Signature) : signerInfo s = Der.sequence (signerParts s) := rfl

/-- The attributes as they are read, if there are any. -/
def attributeElements (s : Signature) : List Tlv :=
  if s.attributes.isEmpty then [] else [made 0xa0 (ordered s.attributes).flatten]

/-- An integer that is written is an element. -/
theorem denotes_integer {n : Int} (h : (integer n).length < rules.lengthLimit) :
    Denotes rules (integer n) (made 0x02 (integerOctets n)) := denotes_made (by decide) h

/-- The signer's name is read as issuer and number. -/
theorem denotes_signerName {s : Signature} (issuer : IsKept rules s.signer.issuer.whole)
    (short : (signerName s).length < rules.lengthLimit) :
    ∃ e i, Denotes rules (signerName s) e ∧
      e.sequence? rules = some [i, made 0x02 (integerOctets s.signer.serial)] ∧
      keep? i = some s.signer.issuer.whole := by
  have serialShort : (integer s.signer.serial).length < rules.lengthLimit :=
    lt_trans (length_lt_sequence (by simp)) short
  obtain ⟨i, denotes, other⟩ := issuer
  obtain ⟨here, members⟩ :=
    denotes_sequence (length_content_lt short)
      (.cons denotes (.cons (denotes_integer serialShort) .nil))
  exact ⟨_, i, here, members, keep?_of_denotes denotes other⟩

/-- The signer's algorithm is read as its identifier, with NULL or without. -/
theorem denotes_signerAlgorithm {s : Signature} (writable : s.algorithm.encode?.isSome)
    (short : (signerAlgorithm s).length < rules.lengthLimit) :
    ∃ e o, Denotes rules (signerAlgorithm s) e ∧ (e.sequence? rules = some [o] ∨
      e.sequence? rules = some [o, made 0x05 []]) ∧ readOid? o = some s.algorithm := by
  unfold signerAlgorithm at short ⊢
  split at short
  · rename_i rsa
    obtain ⟨e, o, here, members, read⟩ := denotes_algorithmWithNull writable short
    exact ⟨e, o, by rwa [if_pos rsa], .inr members, read⟩
  · rename_i other
    obtain ⟨e, o, here, members, read⟩ := denotes_bareAlgorithm writable short
    exact ⟨e, o, by rwa [if_neg other], .inl members, read⟩

/-- The attributes are read one by one. -/
theorem forall₂_attributeElements {s : Signature}
    (short : ∀ b ∈ signerAttributes s, b.length < rules.lengthLimit) :
    List.Forall₂ (Denotes rules) (signerAttributes s) (attributeElements s) := by
  unfold signerAttributes at short ⊢
  unfold attributeElements
  split
  · exact .nil
  · rename_i filled
    rw [if_neg filled] at short
    have attributesShort := short (embeddedForm s.attributes) (by simp)
    exact .cons (denotes_made (by decide) attributesShort) .nil

/-- A sequence has none of the tags of fields. -/
theorem isContext_of_sequence? {e : Tlv} {es : List Tlv} {n : Nat}
    (h : e.sequence? rules = some es) : e.isContext n = false := by
  have universal := Certificate.isUniversal_of_sequence? h
  simp only [isUniversal, Bool.and_eq_true, decide_eq_true_eq] at universal
  simp [isContext, universal.1]

/-- A signer has its parts as members, whatever its attributes are. -/
theorem denotes_signerInfo {s : Signature} (issuer : IsKept rules s.signer.issuer.whole)
    (writable : s.algorithm.encode?.isSome) (short : (signerInfo s).length < rules.lengthLimit) :
    ∃ e name digest algorithm, Denotes rules (signerInfo s) e ∧
      e.sequence? rules = some (made 0x02 (integerOctets 1) :: name :: digest ::
        (attributeElements s ++ [algorithm, made 0x04 s.value])) ∧
      Denotes rules (signerName s) name ∧
      Denotes rules (algorithmWithNull s.digest.algorithm.oid) digest ∧
      Denotes rules (signerAlgorithm s) algorithm := by
  rw [signerInfo_eq] at short ⊢
  have part : ∀ b ∈ signerParts s, b.length < rules.lengthLimit :=
    fun b m => lt_trans (length_lt_sequence m) short
  obtain ⟨name, _, nameHere, -⟩ := denotes_signerName issuer (part _ (by simp [signerParts]))
  obtain ⟨digest, _, digestHere, -⟩ :=
    denotes_algorithmWithNull (writable_oid s.digest.algorithm) (part _ (by simp [signerParts]))
  obtain ⟨algorithm, _, algorithmHere, -⟩ :=
    denotes_signerAlgorithm writable (part _ (by simp [signerParts]))
  have version : Denotes rules (integer 1) (made 0x02 (integerOctets 1)) :=
    denotes_integer (part _ (by simp [signerParts]))
  have valueShort := part (octetString s.value) (by simp [signerParts])
  have value : Denotes rules (octetString s.value) (made 0x04 s.value) :=
    denotes_made (by decide) valueShort
  have attributes := @forall₂_attributeElements rules s
    fun b m => part b (by simp [signerParts, m])
  have front : List.Forall₂ (Denotes rules)
      [integer 1, signerName s, algorithmWithNull s.digest.algorithm.oid]
      [made 0x02 (integerOctets 1), name, digest] :=
    .cons version (.cons nameHere (.cons digestHere .nil))
  have back : List.Forall₂ (Denotes rules) [signerAlgorithm s, octetString s.value]
      [algorithm, made 0x04 s.value] := .cons algorithmHere (.cons value .nil)
  obtain ⟨here, members⟩ := denotes_sequence (length_content_lt short)
    (List.rel_append (List.rel_append front attributes) back)
  refine ⟨_, name, digest, algorithm, here, ?_, nameHere, digestHere, algorithmHere⟩
  simpa using members

/-! ## Signed data -/

/-- The elements of the signed data. -/
def signedParts (s : Signature) : List Bytes :=
  [integer 1, Der.setOf 0x31 [algorithmWithNull s.digest.algorithm.oid],
    contentInfo s.contentType s.content, Der.setOf 0xa0 (s.certificates.map (·.der)),
    Der.setOf 0x31 [signerInfo s]]

/-- The signed data are a sequence of their parts. -/
theorem signedData_eq (s : Signature) : signedData s = Der.sequence (signedParts s) := rfl

/-- The information on a signer is short enough if the signed data are. -/
theorem length_signerInfo_lt {s : Signature} (short : (signedData s).length < rules.lengthLimit) :
    (signerInfo s).length < rules.lengthLimit := by
  rw [signedData_eq] at short
  have inSet : (signerInfo s).length < (Der.setOf 0x31 [signerInfo s]).length :=
    length_lt_setOf (by simp)
  exact lt_trans inSet (lt_trans (length_lt_sequence (by simp [signedParts])) short)

/-- Signed data has its parts as members, whatever its certificates and its signer are. -/
theorem denotes_signedData {s : Signature} (writable : s.contentType.encode?.isSome)
    (short : (signedData s).length < rules.lengthLimit) :
    ∃ e digest info, Denotes rules (signedData s) e ∧
      e.sequence? rules = some [made 0x02 (integerOctets 1),
        made 0x31 (algorithmWithNull s.digest.algorithm.oid), info,
        made 0xa0 (ordered (s.certificates.map (·.der))).flatten, made 0x31 (signerInfo s)] ∧
      (made 0x31 (algorithmWithNull s.digest.algorithm.oid)).set? rules = some [digest] ∧
      Denotes rules (algorithmWithNull s.digest.algorithm.oid) digest ∧
      Denotes rules (contentInfo s.contentType s.content) info := by
  rw [signedData_eq] at short ⊢
  have part : ∀ b ∈ signedParts s, b.length < rules.lengthLimit :=
    fun b m => lt_trans (length_lt_sequence m) short
  have version : Denotes rules (integer 1) (made 0x02 (integerOctets 1)) :=
    denotes_integer (part _ (by simp [signedParts]))
  have algorithmsShort := part (Der.setOf 0x31 [algorithmWithNull s.digest.algorithm.oid])
    (by simp [signedParts])
  have certificatesShort := part (Der.setOf 0xa0 (s.certificates.map (·.der)))
    (by simp [signedParts])
  have signersShort := part (Der.setOf 0x31 [signerInfo s]) (by simp [signedParts])
  have infoShort := part (contentInfo s.contentType s.content) (by simp [signedParts])
  obtain ⟨digest, _, digestHere, -⟩ := denotes_algorithmWithNull (writable_oid s.digest.algorithm)
    (lt_trans (length_lt_setOf (by simp)) algorithmsShort)
  obtain ⟨info, _, infoHere, -⟩ :=
    denotes_contentInfo writable (length_content_lt infoShort)
  obtain ⟨here, members⟩ := denotes_sequence (length_content_lt short)
    (.cons version (.cons (denotes_made (by decide) algorithmsShort) (.cons infoHere
      (.cons (denotes_made (by decide) certificatesShort)
        (.cons (denotes_made (by decide) signersShort) .nil)))))
  refine ⟨_, digest, info, here, ?_, ?_, digestHere, infoHere⟩
  · simpa [ordered, place] using members
  · rw [set?_made, readMany?_of_denotes digestHere]

/-- The content of an element is short enough if it is. -/
theorem length_content_lt_of_element {identifier : UInt8} {content : Bytes}
    (h : (element identifier content).length < elementLimit) :
    content.length < Rules.basic.lengthLimit := by
  by_contra long
  have octets : ¬ Bytes.octetCount content.length ≤ 126 := fun few =>
    long (Bytes.octetCount_le_iff.1 few)
  have large : Rules.basic.lengthLimit ≤ content.length := not_lt.1 long
  have atLeast : 128 ≤ content.length := le_trans (by decide) large
  rw [length_element, lengthOctets, if_neg (not_lt.2 atLeast), List.length_cons,
    Bytes.length_minimal, elementLimit, Nat.pow_eq] at h
  have limit : Rules.basic.lengthLimit = 256 ^ 126 := rfl
  omega

/-- The octets of a signature are read back as a typed content, whatever follows them. -/
theorem read?_encode {s : Signature} (short : (encode s).length < elementLimit) (padding : Bytes) :
    ContentInfo.read? (encode s ++ padding)
      = some (⟨signedDataOid, some (signedData s)⟩, encode s, padding) := by
  have writable : signedDataOid.encode?.isSome := by decide
  obtain ⟨e, o, here, members, type⟩ :=
    @denotes_contentInfo .basic _ _ writable (length_content_lt_of_element short)
  have info := ofTlv?_of_members members type
  have whole : e.whole = encode s := here.whole_eq
  have read : Tlv.read? .basic (encode s ++ padding) = some (e, padding) := here padding
  simp [ContentInfo.read?, read, info, whole]

/-- The signed data are short enough if the signature is. -/
theorem length_signedData_lt {s : Signature} (short : (encode s).length < elementLimit) :
    (signedData s).length < Rules.basic.lengthLimit := by
  have whole := length_content_lt_of_element short
  have inside : (explicit 0 (signedData s)).length < Rules.basic.lengthLimit :=
    lt_of_le_of_lt (length_le_flatten (by simp)) whole
  exact lt_trans (length_lt_element _ _) inside

/-! ## What the octets depend on -/

/-- Two signatures that agree in what is written: their sets only have to be the same sets, and of the
signer's certificate only the name is written beside the set. -/
structure AreWrittenAlike (s t : Signature) : Prop where
  digest : s.digest = t.digest
  value : s.value = t.value
  algorithm : s.algorithm = t.algorithm
  content : s.content = t.content
  contentType : s.contentType = t.contentType
  serial : s.signer.serial = t.signer.serial
  issuer : s.signer.issuer.whole = t.signer.issuer.whole
  attributes : ordered s.attributes = ordered t.attributes
  certificates : ordered (s.certificates.map (·.der)) = ordered (t.certificates.map (·.der))

/-- Putting members in order leaves none exactly if there was none. -/
theorem isEmpty_ordered (members : List Bytes) : (ordered members).isEmpty = members.isEmpty :=
  (ordered_perm members).isEmpty_eq

/-- Signatures that agree in what is written have the same octets. -/
theorem AreWrittenAlike.encode_eq {s t : Signature} (h : AreWrittenAlike s t) :
    encode s = encode t := by
  have embedded : embeddedForm s.attributes = embeddedForm t.attributes := by
    rw [embeddedForm, embeddedForm, Der.setOf, Der.setOf, h.attributes]
  have empty : s.attributes.isEmpty = t.attributes.isEmpty := by
    rw [← isEmpty_ordered s.attributes, h.attributes, isEmpty_ordered]
  have info : signerInfo s = signerInfo t := by
    simp only [signerInfo, embedded, empty, h.digest, h.value, h.algorithm, h.serial, h.issuer]
  have sameSet : Der.setOf 0xa0 (s.certificates.map (·.der))
      = Der.setOf 0xa0 (t.certificates.map (·.der)) := by
    rw [Der.setOf, Der.setOf, h.certificates]
  have data : signedData s = signedData t := by
    simp only [signedData, info, sameSet, h.digest, h.content, h.contentType]
  rw [encode, encode, data]

end ImageSigning.Signature
