import ImageSigning.Proofs.Signature.Document
import ImageSigning.Proofs.Signature.Made
import Mathlib.Data.List.Perm.Basic

/-!
# A built signature can be verified

Whoever reads a built signature component by component finds one signer, whose attributes hold the
type and the digest of the content, whose value is what the key returned, and whose certificate is in
the set and verifies that value over the attributes under the universal tag.

* **`read?_encode_of_isComplete`** — the components of a complete signature.
* **`build_verifiable`** — what a verifier needs holds of every signature that is built.
-/

namespace ImageSigning.Signature

open Der Tlv

variable {rules : Rules}

/-! ## The authenticated attributes -/

/-- The authenticated attributes of a content, each with its value. -/
def attributeFields (a : DigestAlgorithm) (content : Bytes) : List AttributeField :=
  [⟨contentTypeOid, [identifier indirectDataOid]⟩, ⟨programInfoOid, [Der.sequence []]⟩,
    ⟨messageDigestOid, [octetString (a.hash.run ((content? content).getD []))]⟩]

/-- An identifier that is written is an element. -/
theorem exists_denotes_identifier {oid : Oid} (writable : oid.encode?.isSome)
    (short : (identifier oid).length < rules.lengthLimit) :
    ∃ e, Denotes rules (identifier oid) e := by
  obtain ⟨e, denotes, -⟩ := readOid?_identifier writable short
  exact ⟨e, denotes⟩

/-- The attributes that are signed are read as the three that were written, in some order. -/
theorem exists_fields_of_attributesFor (a : DigestAlgorithm) (content : Bytes) :
    ∃ fs, List.Forall₂ (IsAttribute rules) (attributesFor a content) fs ∧
      fs.Perm (attributeFields a content) := by
  have limit : 100 < rules.lengthLimit := by cases rules <;> decide
  have size : (a.hash.run ((content? content).getD [])).length ≤ 64 := by
    rw [HashFunction.length_run]
    exact size_le a
  have type : IsAttribute rules typeAttribute ⟨contentTypeOid, [identifier indirectDataOid]⟩ :=
    isAttribute_attributeElement (by decide) (lt_of_le_of_lt (by decide) limit)
      (exists_denotes_identifier (by decide) (lt_of_le_of_lt (by decide) limit))
  have info : IsAttribute rules infoAttribute ⟨programInfoOid, [Der.sequence []]⟩ :=
    isAttribute_attributeElement (by decide) (lt_of_le_of_lt (by decide) limit)
      ⟨_, denotes_made (by decide) (lt_of_le_of_lt (by decide) limit)⟩
  have digestShort := lt_of_le_of_lt (length_digestAttribute size) limit
  have octetsShort : (octetString (a.hash.run ((content? content).getD []))).length
      < rules.lengthLimit :=
    lt_of_le_of_lt (length_element_le (by omega)) (by omega)
  have digest : IsAttribute rules (digestAttribute (a.hash.run ((content? content).getD [])))
      ⟨messageDigestOid, [octetString (a.hash.run ((content? content).getD []))]⟩ :=
    isAttribute_attributeElement (by decide) digestShort ⟨_, denotes_made (by decide) octetsShort⟩
  have inOrder : List.Forall₂ (IsAttribute rules)
      [typeAttribute, infoAttribute, digestAttribute (a.hash.run ((content? content).getD []))]
      (attributeFields a content) := .cons type (.cons info (.cons digest .nil))
  rw [attributesFor_eq]
  obtain ⟨fs, members, perm⟩ := List.perm_comp_forall₂ (ordered_perm _) inOrder
  exact ⟨fs, members, perm⟩

/-- An attribute of a type that only one field has is found whatever the order of the fields. -/
theorem valuesOf_eq {s : SignerField} {whole : Bytes} {fs : List AttributeField}
    {a : DigestAlgorithm} {content : Bytes} (attributes : s.attributes = some (whole, fs))
    (perm : fs.Perm (attributeFields a content)) :
    s.valuesOf contentTypeOid = [[identifier indirectDataOid]] ∧
      s.valuesOf messageDigestOid
        = [[octetString (a.hash.run ((content? content).getD []))]] := by
  have values (type : Oid) : (s.valuesOf type).Perm
      (((attributeFields a content).filter (·.type = type)).map (·.values)) := by
    unfold SignerField.valuesOf
    rw [attributes]
    exact (perm.filter _).map _
  constructor
  · apply List.perm_singleton.1
    exact values contentTypeOid
  · apply List.perm_singleton.1
    exact values messageDigestOid

/-! ## The components -/

/-- The algorithm of a signer is read as the field of its key. -/
theorem ofTlv?_signerAlgorithm {s : Signature} (writable : s.algorithm.encode?.isSome)
    (short : (signerAlgorithm s).length < rules.lengthLimit) :
    ∃ e, Denotes rules (signerAlgorithm s) e ∧
      AlgorithmField.ofTlv? rules e = some (keyAlgorithmField s.algorithm) := by
  unfold signerAlgorithm at short ⊢
  unfold keyAlgorithmField
  split at short
  · rename_i rsa
    obtain ⟨e, o, here, members, read⟩ := denotes_algorithmWithNull writable short
    rw [if_pos rsa, if_pos rsa]
    exact ⟨e, here, AlgorithmField.ofTlv?_of_null members read⟩
  · rename_i other
    obtain ⟨e, o, here, members, read⟩ := denotes_bareAlgorithm writable short
    rw [if_neg other, if_neg other]
    exact ⟨e, here, AlgorithmField.ofTlv?_of_bare members read⟩

/-- The signer of a complete signature. -/
def signerField (i : Identity) (d : Digest) (s : Signature) (fs : List AttributeField) :
    SignerField where
  version := 1
  issuer := i.certificate.issuer.whole
  serial := i.certificate.serial
  digestAlgorithm := ⟨d.algorithm.oid, some null⟩
  attributes := some (embeddedForm (attributesFor d.algorithm (bind d)), fs)
  signatureAlgorithm := keyAlgorithmField s.algorithm
  value := s.value
  unauthenticated := none

/-- The signer of a complete signature is read with every component. -/
theorem ofTlv?_signer {i : Identity} {d : Digest} {s : Signature} (h : IsComplete i d s)
    (read : i.certificate.IsRead) (short : (signerInfo s).length < rules.lengthLimit) :
    ∃ e fs, Denotes rules (signerInfo s) e ∧
      fs.Perm (attributeFields d.algorithm (bind d)) ∧
      SignerField.ofTlv? rules e = some (signerField i d s fs) := by
  have writable : IsWritable rules s := h.isWritable read
  have part : ∀ b ∈ signerParts s, b.length < rules.lengthLimit :=
    fun b m => lt_trans (length_lt_sequence m) short
  obtain ⟨fs, attributes, perm⟩ := @exists_fields_of_attributesFor rules d.algorithm (bind d)
  have filled : s.attributes.isEmpty = false := by
    rw [h.attributes]
    exact isEmpty_attributesFor _ _
  obtain ⟨e, name, digest, algorithm, here, members, nameHere, digestHere, algorithmHere⟩ :=
    denotes_signerInfo writable.issuer writable.algorithm short
  obtain ⟨_, n, nameHere', nameMembers, issuer⟩ :=
    denotes_signerName writable.issuer (part _ (by simp [signerParts]))
  obtain ⟨_, o, digestHere', digestMembers, digestOid⟩ :=
    denotes_algorithmWithNull (writable_oid s.digest.algorithm) (part _ (by simp [signerParts]))
  obtain ⟨_, algorithmHere', keyAlgorithm⟩ :=
    ofTlv?_signerAlgorithm writable.algorithm (part _ (by simp [signerParts]))
  obtain rfl := nameHere.unique nameHere'
  obtain rfl := digestHere.unique digestHere'
  obtain rfl := algorithmHere.unique algorithmHere'
  have certificateName : certificateName? rules name
      = some (i.certificate.issuer.whole, i.certificate.serial) := by
    have whole := whole_of_keep? issuer
    unfold certificateName?
    rw [nameMembers]
    simp [whole, readInteger?_made, h.signer]
  have digestField := AlgorithmField.ofTlv?_of_null digestMembers digestOid
  have attributesField : attributeSet? rules (some (made 0xa0 (ordered s.attributes).flatten))
      = some (some (embeddedForm (attributesFor d.algorithm (bind d)), fs)) := by
    obtain ⟨es, inside, fields⟩ := exists_mapM_of_isAttribute attributes
    rw [← h.attributes] at inside ⊢
    have membersRead : (made 0xa0 (ordered s.attributes).flatten).members? rules = some es := by
      rw [h.ordered_attributes, members?_made_a0, readMany?_flatten inside]
    have whole : element 0xa0 (ordered s.attributes).flatten = embeddedForm s.attributes := rfl
    simp [attributeSet?, membersRead, fields, whole]
  have notContext : algorithm.isContext 0 = false := by
    obtain ⟨_, _, algorithmHere', algorithmMembers, -⟩ :=
      denotes_signerAlgorithm writable.algorithm (part _ (by simp [signerParts]))
    obtain rfl := algorithmHere.unique algorithmHere'
    rcases algorithmMembers with members | members <;> exact isContext_of_sequence? members
  refine ⟨e, fs, here, perm, ?_⟩
  have attributesElement := splitContext_of_isContext [algorithm, made 0x04 s.value]
    (isContext_made_a0 (ordered s.attributes).flatten)
  have nothingBehind : splitContext 1 [] = (none, []) := rfl
  unfold SignerField.ofTlv?
  rw [members]
  simp only [attributeElements, filled, Bool.false_eq_true, if_false, List.singleton_append,
    Option.bind_eq_bind, Option.bind_some, attributesElement, nothingBehind, ne_eq,
    not_true_eq_false, certificateName, readInteger?_made, digestField, attributesField,
    keyAlgorithm, primitive?_octetString, Option.map_none, h.digest]
  rfl

/-- Signed data with the given content, and one signer with the given attributes. -/
def documentField (i : Identity) (d : Digest) (s : Signature) (content : Tlv)
    (fs : List AttributeField) : Document where
  version := 1
  digestAlgorithms := [⟨d.algorithm.oid, some null⟩]
  contentType := indirectDataOid
  content := some content
  certificates := some (ordered (s.certificates.map (·.der)))
  revocations := none
  signers := [signerField i d s fs]

/-- The certificates of a signature are read as their octets, in the order of the set. -/
theorem certificateSet?_made {s : Signature} (writable : IsWritable rules s)
    (short : (Der.setOf 0xa0 (s.certificates.map (·.der))).length < rules.lengthLimit) :
    certificateSet? rules (some (made 0xa0 (ordered (s.certificates.map (·.der))).flatten))
      = some (some (ordered (s.certificates.map (·.der)))) := by
  have each : ∀ b ∈ s.certificates.map (·.der), IsKept rules b := by
    intro b m
    obtain ⟨c, member, rfl⟩ := List.mem_map.1 m
    exact writable.certificates c member
  obtain ⟨-, es, inside, -⟩ := denotes_setOf (by decide) short each
  simp [certificateSet?, members?_made_a0, readMany?_flatten inside, map_whole_eq inside]

/-- The signed data of a complete signature is read with every component. -/
theorem ofTlv?_signedData {i : Identity} {d : Digest} {s : Signature} (h : IsComplete i d s)
    (read : i.certificate.IsRead) (short : (signedData s).length < rules.lengthLimit) :
    ∃ e content fs, Denotes rules (signedData s) e ∧ Denotes rules (bind d) content ∧
      fs.Perm (attributeFields d.algorithm (bind d)) ∧
      Document.ofTlv? rules e = some (documentField i d s content fs) := by
  have writable : IsWritable rules s := h.isWritable read
  have part : ∀ b ∈ signedParts s, b.length < rules.lengthLimit :=
    fun b m => lt_trans (length_lt_sequence m) short
  obtain ⟨e, digest, info, here, members, algorithmsMembers, digestHere, infoHere⟩ :=
    denotes_signedData writable.contentType short
  have infoShort := part (contentInfo s.contentType s.content) (by simp [signedParts])
  have signersShort := part (Der.setOf 0x31 [signerInfo s]) (by simp [signedParts])
  have certificatesShort := part (Der.setOf 0xa0 (s.certificates.map (·.der)))
    (by simp [signedParts])
  have algorithmsShort := part (Der.setOf 0x31 [algorithmWithNull s.digest.algorithm.oid])
    (by simp [signedParts])
  obtain ⟨_, q, digestHere', digestMembers, digestOid⟩ :=
    denotes_algorithmWithNull (writable_oid s.digest.algorithm)
      (lt_trans (length_lt_setOf (by simp)) algorithmsShort)
  obtain ⟨_, p, infoHere', infoMembers, type⟩ :=
    denotes_contentInfo writable.contentType (length_content_lt infoShort)
  obtain rfl := digestHere.unique digestHere'
  obtain rfl := infoHere.unique infoHere'
  obtain ⟨signer, fs, signerHere, perm, signerRead⟩ :=
    ofTlv?_signer h read (lt_trans (length_lt_setOf (by simp)) signersShort)
  obtain ⟨content, contentHere, -, -⟩ := @BoundField.ofTlv?_bind rules d
  have digestField : AlgorithmField.ofTlv? rules digest = some ⟨d.algorithm.oid, some null⟩ := by
    rw [← h.digest]
    exact AlgorithmField.ofTlv?_of_null digestMembers digestOid
  have infoRead : typedElement? rules info = some (indirectDataOid, some content) := by
    rw [← h.contentType]
    exact typedElement?_of_members infoMembers type (by rwa [h.content])
  have certificatesRead := certificateSet?_made writable certificatesShort
  have signersRead : (made 0x31 (signerInfo s)).set? rules = some [signer] := by
    rw [set?_made, readMany?_of_denotes signerHere]
  have certificatesElement := splitContext_of_isContext [made 0x31 (signerInfo s)]
    (isContext_made_a0 (ordered (s.certificates.map (·.der))).flatten)
  have noRevocations := splitContext_of_not_isContext []
    (isContext_made_universal (signerInfo s) 1 (by decide : (0x31 : UInt8) < 0x40))
  refine ⟨e, content, fs, here, contentHere, perm, ?_⟩
  unfold Document.ofTlv?
  rw [members]
  simp only [Option.bind_eq_bind, Option.bind_some, certificatesElement, noRevocations, infoRead,
    readInteger?_made, algorithmsMembers, digestField, List.mapM_cons, List.mapM_nil,
    certificatesRead, signersRead, signerRead, Option.map_none]
  rfl

/-- The octets that are short enough for a rule hold a typed content that is short enough. -/
theorem length_content_lt_of_rules {s : Signature} (whole : s.encode.length < elementLimit)
    (short : rules = .basic ∨ s.encode.length < rules.lengthLimit) :
    [identifier signedDataOid, explicit 0 (signedData s)].flatten.length < rules.lengthLimit := by
  rcases short with rfl | short
  · exact length_content_lt_of_element whole
  · exact length_content_lt short

/-- A complete signature is signed data with its parts as components, and one signer. -/
theorem read?_encode_of_isComplete {i : Identity} {d : Digest} {s : Signature}
    (h : IsComplete i d s) (read : i.certificate.IsRead)
    (short : rules = .basic ∨ s.encode.length < rules.lengthLimit) :
    ∃ content fs, Denotes rules (bind d) content ∧
      fs.Perm (attributeFields d.algorithm (bind d)) ∧
      Document.read? rules s.encode = some (documentField i d s content fs) := by
  have outerShort := length_content_lt_of_rules h.short short
  obtain ⟨outer, o, outerHere, outerMembers, outerType⟩ :=
    @denotes_contentInfo rules _ _ (by decide) outerShort
  have taggedShort : (explicit 0 (signedData s)).length < rules.lengthLimit :=
    lt_of_le_of_lt (length_le_flatten (by simp)) outerShort
  obtain ⟨e, content, fs, here, contentHere, perm, documentRead⟩ :=
    ofTlv?_signedData h read (lt_trans (length_lt_element _ _) taggedShort)
  have alone : Tlv.readOnly? rules s.encode = some outer := readOnly?_of_denotes outerHere
  have outerRead := typedElement?_of_members outerMembers outerType here
  refine ⟨content, fs, contentHere, perm, ?_⟩
  simp [Document.read?, alone, outerRead, documentRead]

/-! ## What a verifier finds -/

/-- A signature by a certificate is one that its key verifies. -/
theorem publicKey_of_isBy {c : Certificate} {a : DigestAlgorithm} {message signature : Bytes}
    (h : isBy c a message signature = true) :
    ∃ key, c.publicKey = .ok key ∧ key.verify a.hash message signature = true := by
  unfold isBy at h
  split at h
  · rename_i key found
    exact ⟨key, found, h⟩
  · simp at h

/-- **Verification.** Read under either rule, a built signature is signed data with one signer, in
which the content binds exactly the digest that was given, the attributes hold the type of the content
and the hash of what stands behind the content's header, the signer is named by issuer and serial
number of the identity's certificate, which is in the set, and the value is what the key returned and
one that the certificate's public key verifies over the attributes under the universal tag. -/
theorem build_verifiable {i : Identity} {d : Digest} {s : Signature} {w w' : World}
    (read : i.certificate.IsRead) (h : build i d w = (.ok s, w'))
    (short : rules = .basic ∨ s.der.length < rules.lengthLimit) :
    ∃ document signer content attributes fields,
      Document.read? rules s.der = some document ∧
      document.signers = [signer] ∧ document.content = some content ∧
      signer.attributes = some (attributes, fields) ∧
      (∃ bound, BoundField.ofTlv? rules content = some bound ∧
        bound.algorithm.oid = d.algorithm.oid ∧ bound.octets = d.octets) ∧
      signer.digestAlgorithm.oid = d.algorithm.oid ∧
      signer.valuesOf messageDigestOid
        = [[octetString (d.algorithm.hash.run content.content)]] ∧
      signer.valuesOf contentTypeOid = [[identifier indirectDataOid]] ∧
      document.contentType = indirectDataOid ∧
      signer.issuer = i.certificate.issuer.whole ∧ signer.serial = i.certificate.serial ∧
      (∃ certificates, document.certificates = some certificates ∧
        i.certificate.der ∈ certificates) ∧
      (∃ w₁, i.key.sign d.algorithm.hash (0x31 :: attributes.drop 1) w
        = (.ok signer.value, w₁)) ∧
      ∃ key, i.certificate.publicKey = .ok key ∧
        key.verify d.algorithm.hash (0x31 :: attributes.drop 1) signer.value = true := by
  obtain ⟨complete, noOthers⟩ := isComplete_of_build h
  obtain ⟨algorithm, value, w₁, -, signed, verified, -, parts, shape, -, -, rfl⟩ := build_eq_ok h
  rw [complete.der] at short ⊢
  obtain ⟨content, fs, here, perm, components⟩ := read?_encode_of_isComplete complete read short
  obtain ⟨content', here', stripped, bound⟩ := @BoundField.ofTlv?_bind rules d
  obtain rfl := here.unique here'
  obtain ⟨types, digests⟩ := @valuesOf_eq (signerField i d _ fs) _ fs d.algorithm (bind d) rfl perm
  rw [stripped, Option.getD_some] at digests
  have sameValue : parts.value = value := by rw [shape]
  have inSet : i.certificate.der ∈ ordered (parts.certificates.map (·.der)) := by
    rw [(ordered_perm _).mem_iff, certificates, shape]
    exact List.mem_cons_self ..
  refine ⟨_, _, content, _, fs, components, rfl, rfl, rfl, ⟨_, bound, rfl, rfl⟩, rfl, digests, types,
    rfl, rfl, rfl, ⟨_, rfl, inSet⟩, ⟨w₁, ?_⟩, ?_⟩
  · rw [← signedForm]
    exact signed.trans (by rw [signerField, sameValue])
  · obtain ⟨key, found, holds⟩ := publicKey_of_isBy verified
    refine ⟨key, found, ?_⟩
    rw [signerField, sameValue]
    exact holds

/-- The signature of the short key over the empty message can be verified, also under the
distinguished rules. -/
theorem build_verifiable_shortIdentity : ∃ c s w', c.IsRead ∧
    build (shortIdentity c) (.compute .sha256 []) noSurroundings = (.ok s, w') ∧
    s.der.length < Rules.distinguished.lengthLimit ∧
    ∃ document signer key, Document.read? .distinguished s.der = some document ∧
      document.signers = [signer] ∧ c.publicKey = .ok key ∧
      ∃ message, key.verify .sha256 message signer.value = true := by
  obtain ⟨c, s, w', read, built, length⟩ := exists_build_shortIdentity
  have short : s.der.length < Rules.distinguished.lengthLimit := by
    rw [length]
    decide
  obtain ⟨document, signer, _, attributes, _, components, one, _, _, _, _, _, _, _, _, _, _, _, key,
    found, holds⟩ := build_verifiable read built (.inr short)
  exact ⟨c, s, w', read, built, short, document, signer, key, components, one, found, _, holds⟩

end ImageSigning.Signature
