import ImageSigning.Proofs.Run
import ImageSigning.Proofs.Signature.Binding
import ImageSigning.Proofs.Signature.Parts

/-!
# Signatures that were made

A signature is made by building it with an identity over a digest and then adding the certificates of
any number of bundles. What building fixes stays fixed: digest, signer, content, attributes and value
are those of the identity and the digest, and the octets are always those of the parts.

* **`Made`** — the signatures that building and augmenting lead to.
* **`build_eq_ok`**, **`augment_eq_ok`** — what the two steps give when they succeed.
* **`Made.isComplete`** — the invariant: kept by every step, and so by every sequence of steps.
-/

namespace ImageSigning.Signature

open Der Tlv

/-- The signatures by an identity over a digest: built, and augmented any number of times, in whatever
surroundings each step was made. -/
inductive Made (i : Identity) (d : Digest) : Signature → Prop
  | built {s : Signature} {w w' : World} (h : build i d w = (.ok s, w')) : Made i d s
  | augmented {s t : Signature} {path : String} {w w' : World} (before : Made i d s)
      (h : s.augment path w = (.ok t, w')) : Made i d t

/-! ## The steps -/

section
variable {w w' : World}

/-- Writing succeeds exactly if the signer's issuer is readable and the octets are not too many. -/
theorem written_eq_ok {s t : Signature} : s.written w = (.ok t, w') ↔
    (∃ groups, s.signer.issuer.read = .ok groups) ∧ s.encode.length < elementLimit ∧
      t = { s with der := s.encode } ∧ w = w' := by
  have encoded_eq (t : Signature) : s.encoded = .ok t ↔
      (∃ groups, s.signer.issuer.read = .ok groups) ∧ t = { s with der := s.encode } := by
    unfold encoded
    rw [Outcome.bind_eq_ok]
    simp only [Outcome.pure_eq_ok]
    constructor
    · rintro ⟨groups, read, rfl⟩
      exact ⟨⟨groups, read⟩, rfl⟩
    · rintro ⟨⟨groups, read⟩, rfl⟩
      exact ⟨groups, read, rfl⟩
  unfold written
  simp only [Run.bind_eq_ok, Run.lift_eq_ok, Run.defectUnless_eq_ok, Run.pure_eq_ok, encoded_eq,
    not_le]
  constructor
  · rintro ⟨t', _, ⟨⟨readable, rfl⟩, rfl⟩, short, rfl, rfl⟩
    exact ⟨readable, short, rfl, rfl⟩
  · rintro ⟨readable, short, rfl, rfl⟩
    exact ⟨_, _, ⟨⟨readable, rfl⟩, rfl⟩, short, rfl, rfl⟩

/-- What building gives: the key's answer over the signed attributes, which is one by the
certificate's key, put together with what was signed. -/
theorem build_eq_ok {i : Identity} {d : Digest} {s : Signature}
    (h : build i d w = (.ok s, w')) :
    ∃ algorithm value w₁,
      algorithmFor i.certificate d.algorithm = .ok algorithm ∧
      i.key.sign d.algorithm.hash (signedForm (attributesFor d.algorithm (bind d))) w
        = (.ok value, w₁) ∧
      isBy i.certificate d.algorithm (signedForm (attributesFor d.algorithm (bind d))) value = true ∧
      (∃ t, i.certificate.subject.show = .ok t) ∧
      ∃ parts : Signature, parts = ⟨d, i.certificate, value, algorithm, bind d,
        attributesFor d.algorithm (bind d), [], indirectDataOid, []⟩ ∧
      (∃ groups, parts.signer.issuer.read = .ok groups) ∧ parts.encode.length < elementLimit ∧
      s = { parts with der := parts.encode } := by
  rw [build_eq] at h
  obtain ⟨algorithm, _, lifted, h⟩ := Run.bind_eq_ok.1 h
  obtain ⟨chosen, rfl⟩ := Run.lift_eq_ok.1 lifted
  unfold signContent at h
  obtain ⟨value, w₁, signed, h⟩ := Run.bind_eq_ok.1 h
  rw [Run.tryCatch_throw_eq_ok] at signed
  rw [Run.guard_eq_ok (by
    intro failed
    obtain ⟨_, _, -, failed⟩ := Run.bind_eq_ok.1 failed
    obtain ⟨_, _, failed, -⟩ := Run.bind_eq_ok.1 failed
    exact Run.not_fail_eq_ok failed)] at h
  obtain ⟨verified, h⟩ := h
  obtain ⟨t, _, writes, h⟩ := Run.bind_eq_ok.1 h
  obtain ⟨readable, short, rfl, rfl⟩ := written_eq_ok.1 writes
  obtain ⟨t, _, shown, h⟩ := Run.bind_eq_ok.1 h
  obtain ⟨_, _, _, h⟩ := Run.bind_eq_ok.1 h
  obtain ⟨rfl, -⟩ := Run.pure_eq_ok.1 h
  exact ⟨algorithm, value, w₁, chosen, signed, by simpa using verified,
    ⟨t, (Run.subject_eq_ok.1 shown).1⟩, _, rfl, readable, short, rfl⟩

/-- What augmenting gives: the certificates of the bundle after those that are there. -/
theorem augment_eq_ok {s t : Signature} {path : String} (h : s.augment path w = (.ok t, w')) :
    ∃ chain, InputFile.bundle w.files path = .ok chain ∧
      ∃ parts : Signature, parts = { s with others := s.others ++ chain } ∧
      (∃ groups, parts.signer.issuer.read = .ok groups) ∧ parts.encode.length < elementLimit ∧
      t = { parts with der := parts.encode } := by
  unfold augment at h
  obtain ⟨v, _, got, h⟩ := Run.bind_eq_ok.1 h
  obtain ⟨rfl, rfl⟩ := Run.get_eq_ok.1 got
  obtain ⟨chain, _, lifted, h⟩ := Run.bind_eq_ok.1 h
  obtain ⟨found, rfl⟩ := Run.lift_eq_ok.1 lifted
  obtain ⟨v, -, h⟩ := Run.tellIf_eq_ok h
  obtain ⟨augmented, _, writes, h⟩ := Run.bind_eq_ok.1 h
  obtain ⟨readable, short, rfl, rfl⟩ := written_eq_ok.1 writes
  obtain ⟨_, _, _, h⟩ := Run.bind_eq_ok.1 h
  obtain ⟨rfl, -⟩ := Run.pure_eq_ok.1 h
  exact ⟨chain, found, _, rfl, readable, short, rfl⟩

end

/-! ## What every step keeps -/

/-- What holds of every signature by an identity over a digest that was made. -/
structure IsComplete (i : Identity) (d : Digest) (s : Signature) : Prop where
  digest : s.digest = d
  signer : s.signer = i.certificate
  content : s.content = bind d
  attributes : s.attributes = attributesFor d.algorithm (bind d)
  contentType : s.contentType = indirectDataOid
  algorithm : algorithmFor i.certificate d.algorithm = .ok s.algorithm
  issuer : ∃ groups, s.signer.issuer.read = .ok groups
  subject : ∃ t, s.signer.subject.show = .ok t
  others : ∀ c ∈ s.others, c.IsRead
  der : s.der = s.encode
  short : s.encode.length < elementLimit

/-- The octets that a signature keeps are not among those that it is written as. -/
theorem encode_withDer (s : Signature) (b : Bytes) : encode { s with der := b } = encode s := rfl

/-- A signature that was built is complete, with no certificate but the signer's. -/
theorem isComplete_of_build {i : Identity} {d : Digest} {s : Signature} {w w' : World}
    (h : build i d w = (.ok s, w')) : IsComplete i d s ∧ s.others = [] := by
  obtain ⟨algorithm, value, w₁, chosen, -, -, shown, parts, shape, readable, short, rfl⟩ :=
    build_eq_ok h
  have others : parts.others = [] := by rw [shape]
  refine ⟨?_, others⟩
  exact {
    digest := by rw [shape]
    signer := by rw [shape]
    content := by rw [shape]
    attributes := by rw [shape]
    contentType := by rw [shape]
    algorithm := by
      rw [shape]
      exact chosen
    issuer := readable
    subject := by
      rw [shape]
      exact shown
    others := by simp [others]
    der := (encode_withDer parts _).symm
    short := by
      rw [encode_withDer]
      exact short }

/-- A complete signature stays complete when a bundle is added. -/
theorem IsComplete.augment {i : Identity} {d : Digest} {s t : Signature} {path : String}
    {w w' : World} (before : IsComplete i d s) (h : s.augment path w = (.ok t, w')) :
    IsComplete i d t := by
  obtain ⟨chain, found, parts, shape, readable, short, rfl⟩ := augment_eq_ok h
  have others : parts.others = s.others ++ chain := by rw [shape]
  refine {
    digest := by rw [shape, ← before.digest]
    signer := by rw [shape, ← before.signer]
    content := by rw [shape, ← before.content]
    attributes := by rw [shape, ← before.attributes]
    contentType := by rw [shape, ← before.contentType]
    algorithm := by
      rw [shape]
      exact before.algorithm
    issuer := readable
    subject := by
      rw [shape]
      exact before.subject
    others := ?_
    der := (encode_withDer parts _).symm
    short := by
      rw [encode_withDer]
      exact short }
  intro c m
  rw [others] at m
  rcases List.mem_append.1 m with m | m
  · exact before.others c m
  · exact InputFile.isRead_of_bundle found c m

/-- Every signature that was made is complete. -/
theorem Made.isComplete {i : Identity} {d : Digest} {s : Signature} (h : Made i d s) :
    IsComplete i d s := by
  induction h with
  | built h => exact (isComplete_of_build h).1
  | augmented _ h ih => exact ih.augment h

/-! ## Complete signatures can be read back -/

/-- The algorithm that is used for a key can be written. -/
theorem writable_of_algorithmFor {c : Certificate} {a : DigestAlgorithm} {oid : Oid}
    (h : algorithmFor c a = .ok oid) : oid.encode?.isSome := by
  unfold algorithmFor at h
  split at h
  · simp at h
  · obtain rfl := Except.ok.inj h
    decide
  · obtain rfl := Except.ok.inj h
    cases a <;> decide
  · simp at h

/-- The attribute that repeats the content type. -/
def typeAttribute : Bytes :=
  attributeElement (identifier contentTypeOid) (identifier indirectDataOid)

/-- The attribute for a description of the program. -/
def infoAttribute : Bytes := attributeElement (identifier programInfoOid) (Der.sequence [])

/-- The attribute that holds a digest of the content. -/
def digestAttribute (octets : Bytes) : Bytes :=
  attributeElement (identifier messageDigestOid) (octetString octets)

/-- The attributes of a signature are three, in the order of the set. -/
theorem attributesFor_eq (a : DigestAlgorithm) (content : Bytes) : attributesFor a content = ordered
    [typeAttribute, infoAttribute, digestAttribute (a.hash.run ((content? content).getD []))] := rfl

/-- There are attributes of a signature. -/
theorem isEmpty_attributesFor (a : DigestAlgorithm) (content : Bytes) :
    (attributesFor a content).isEmpty = false := by
  rw [attributesFor_eq, List.isEmpty_eq_false_iff]
  intro empty
  have length := (ordered_perm [typeAttribute, infoAttribute,
    digestAttribute (a.hash.run ((content? content).getD []))]).length_eq
  rw [empty] at length
  simp at length

/-- The attributes of a complete signature are in order already. -/
theorem IsComplete.ordered_attributes {i : Identity} {d : Digest} {s : Signature}
    (h : IsComplete i d s) : ordered s.attributes = s.attributes := by
  rw [h.attributes, attributesFor_eq, ordered_ordered]

/-- The attribute with the digest has a hundred octets at most. -/
theorem length_digestAttribute {octets : Bytes} (h : octets.length ≤ 64) :
    (digestAttribute octets).length ≤ 100 := by
  have count : ∀ n ≤ 100, (lengthOctets n).length = 1 := by
    intro n small
    rw [lengthOctets, if_pos (by omega)]
    rfl
  have type : (identifier messageDigestOid).length = 11 := by decide
  unfold digestAttribute attributeElement octetString Der.sequence
  simp only [length_element, List.flatten_cons, List.flatten_nil, List.length_append, type,
    List.length_nil]
  rw [count octets.length (by omega)]
  rw [count (1 + 1 + octets.length) (by omega)]
  rw [count _ (by omega)]
  omega

/-- No digest is longer than 64 octets. -/
theorem size_le (a : DigestAlgorithm) : a.size ≤ 64 := by cases a <;> decide

/-- An attribute that is written is kept when it is read. -/
theorem isKept_attributeElement {rules : Rules} {type value : Bytes}
    (h : (attributeElement type value).length < rules.lengthLimit) :
    IsKept rules (attributeElement type value) :=
  isKept_element (by decide) (by simp [isEndOfContents, isUniversal, made]) h

/-- The attributes of a signature are kept when they are read. -/
theorem isKept_of_mem_attributesFor {rules : Rules} {a : DigestAlgorithm} {content b : Bytes}
    (h : b ∈ attributesFor a content) : IsKept rules b := by
  have limit : 100 < rules.lengthLimit := by cases rules <;> decide
  rw [attributesFor_eq, (ordered_perm _).mem_iff] at h
  simp only [List.mem_cons, List.not_mem_nil, or_false] at h
  rcases h with rfl | rfl | rfl
  · exact isKept_attributeElement (lt_of_le_of_lt (by decide) limit)
  · exact isKept_attributeElement (lt_of_le_of_lt (by decide) limit)
  · have size : (a.hash.run ((content? content).getD [])).length ≤ 64 := by
      rw [HashFunction.length_run]
      exact size_le a
    exact isKept_attributeElement (lt_of_le_of_lt (length_digestAttribute size) limit)

/-- A complete signature of a certificate that was read can be read back. -/
theorem IsComplete.isWritable {i : Identity} {d : Digest} {s : Signature} {rules : Rules}
    (h : IsComplete i d s) (read : i.certificate.IsRead) : IsWritable rules s where
  contentType := by
    rw [h.contentType]
    decide
  algorithm := writable_of_algorithmFor h.algorithm
  issuer := by
    rw [h.signer]
    exact isKept_of_isUniversal read.denotes_issuer
  attributes a m := by
    rw [h.attributes] at m
    exact isKept_of_mem_attributesFor m
  certificates c m := by
    rcases List.mem_cons.1 m with rfl | m
    · rw [h.signer]
      exact isKept_of_isUniversal read.denotes
    · exact isKept_of_isUniversal (h.others c m).denotes

/-- The certificates of a signature that was built were read as such. -/
theorem IsComplete.isRead {i : Identity} {d : Digest} {s : Signature} (h : IsComplete i d s)
    (read : i.certificate.IsRead) : ∀ c ∈ s.certificates, c.IsRead := by
  intro c m
  rcases List.mem_cons.1 m with rfl | m
  · rw [h.signer]
    exact read
  · exact h.others c m

/-! ## A signature that is made

A short RSA key with a certificate for it, to run the definitions on. -/

/-- Modulus and private exponent of a short RSA key. -/
def shortKey : Nat × Nat :=
  (0xaf75c304a0f126d9d3d893fa4ee211956ff3e79b736ad1456c45a0fcf16b7207051bfbf463536fcdce7b6311af7edf5b1046d8ba642615d20c7cc59790c063e5,
    0x918cb1bafc3b2f8c5104ff340c0dd2a2515d560a8902da18a9c954d39efd0f77cc04a23c84cb8bdd2efbe1ca7186125bcdd7ef2f1c417126d5624c7b1f628e3d)

/-- A certificate for the short key, issued by and for the same name. -/
def shortCertificate (serial : Int) : Bytes :=
  let algorithm := algorithmWithNull [1, 2, 840, 113549, 1, 1, 11]
  let name := Der.sequence [element 0x31 (Der.sequence [identifier [2, 5, 4, 3],
    element 0x0c (Bytes.ofAscii "t")])]
  let validity := Der.sequence [element 0x17 (Bytes.ofAscii "240101000000Z"),
    element 0x17 (Bytes.ofAscii "340101000000Z")]
  Der.sequence
    [Der.sequence [explicit 0 (integer 2), integer serial, algorithm, name, validity, name,
      PublicKey.encode (.rsa shortKey.1 65537)], algorithm, element 0x03 [0]]

/-- The identity of the short key with a certificate. -/
def shortIdentity (c : Certificate) : Identity :=
  ⟨.inMemory (.rsa shortKey.1 65537 shortKey.2), c, .file, "key"⟩

/-- Surroundings without files, environment or programs. -/
def noSurroundings : World := .initial .empty [] fun _ _ _ => ⟨1, [], none⟩

/-- The length of the signature that the short key makes over a digest with a certificate. -/
def shortSignatureLength (certificate : Bytes) (d : Digest) : Option Nat :=
  match Certificate.ofDer certificate with
  | .error _ => none
  | .ok c =>
    match build (shortIdentity c) d noSurroundings with
    | (.ok s, _) => some s.der.length
    | _ => none

/-- The length that was computed for the short identity is that of a signature which is built. -/
theorem exists_build_of_shortSignatureLength {certificate : Bytes} {d : Digest} {n : Nat}
    (h : shortSignatureLength certificate d = some n) : ∃ c s w', c.IsRead ∧
      build (shortIdentity c) d noSurroundings = (.ok s, w') ∧ s.der.length = n := by
  unfold shortSignatureLength at h
  split at h
  · cases h
  · rename_i c found
    split at h
    · rename_i s w' built
      exact ⟨c, s, w', Certificate.isRead_of_ofDer found, built, Option.some.inj h⟩
    · cases h

set_option maxRecDepth 100000 in
/-- The short identity signs the digest of nothing in 589 octets. -/
theorem shortSignatureLength_empty :
    shortSignatureLength (shortCertificate 9) (.compute .sha256 []) = some 589 := by decide +kernel

/-- The short key signs: its certificate can be read and the signature is built. -/
theorem exists_build_shortIdentity : ∃ c s w', c.IsRead ∧
    build (shortIdentity c) (.compute .sha256 []) noSurroundings = (.ok s, w') ∧
    s.der.length = 589 := exists_build_of_shortSignatureLength shortSignatureLength_empty

end ImageSigning.Signature
