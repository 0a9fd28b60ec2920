import ImageSigning.Proofs.Signature.Reencoding
import ImageSigning.Proofs.Signature.Held

/-!
# What adding certificates changes

Adding certificates to a signature writes it anew from its parts. A signature that was written from its
parts before differs in the set of certificates alone. One that was read from foreign octets is put into
the form in which this library writes signatures: versions, digest algorithms and parameters become the
usual ones, attributes get their order, and what a signature has no part for is left out, that is,
revocation lists, attributes that are not authenticated, and all signers but the first.

* **`Components.rewritten`** — the form in which components are written.
* **`Held.exists_components`** — every signature that a run holds has components, and its parts are
  those of the rewritten form.
* **`augment_components`** — the components after certificates were added.
-/

namespace ImageSigning.Signature

open Der Tlv

/-! ## The written form -/

/-- A signer in the form in which it is written, with the given digest algorithm. -/
def SignerComponents.rewritten (k : SignerComponents) (a : DigestAlgorithm) : SignerComponents where
  version := 1
  issuer := k.issuer
  serial := k.serial
  digestAlgorithm := ⟨a.oid, some null⟩
  attributes :=
    if (k.attributes.getD []).isEmpty then none else some (ordered (k.attributes.getD []))
  signatureAlgorithm := keyAlgorithmField k.signatureAlgorithm.oid
  value := k.value
  unauthenticated := none

/-- Components in the form in which they are written, with the given digest algorithm: one signer, no
revocation lists, and the certificates in the order of the set. -/
def Components.rewritten (k : Components) (a : DigestAlgorithm) : Components where
  version := 1
  digestAlgorithms := [⟨a.oid, some null⟩]
  contentInfo := k.contentInfo
  certificates := some (ordered (k.certificates.getD []))
  revocations := none
  signers := k.signers.head?.toList.map (·.rewritten a)

/-- Components with further certificates, in the order of the set. -/
def Components.withCertificates (k : Components) (more : List Bytes) : Components :=
  { k with certificates := some (ordered (k.certificates.getD [] ++ more)) }

/-- Writing a signer again writes the same components. -/
theorem rewritten_signerComponents (s : Signature) :
    (signerComponents s).rewritten s.digest.algorithm = signerComponents s := by
  have attributes : (signerComponents s).attributes.getD [] = ordered s.attributes := by
    unfold signerComponents
    by_cases noAttributes : s.attributes = []
    · rw [noAttributes]
      rfl
    · simp [noAttributes]
  unfold SignerComponents.rewritten
  rw [attributes, isEmpty_ordered, ordered_ordered]
  simp only [signerComponents, oid_keyAlgorithmField]

/-- What is written has the form in which components are written. -/
theorem rewritten_components (s : Signature) :
    (components s).rewritten s.digest.algorithm = components s := by
  simp [Components.rewritten, components, rewritten_signerComponents]

/-! ## The components of a signature that a run holds -/

/-- The components that a signature keeps, of which its parts are the rewritten form. -/
structure HasComponents (s : Signature) (k : Components) : Prop where
  read : components? s.der = some k
  written : components s = k.rewritten s.digest.algorithm
  certificates : (s.certificates.map (·.der)).Perm (k.certificates.getD [])

/-- A signature that keeps the octets of its parts has the components that it is written with. -/
theorem IsSound.hasComponents {s : Signature} (h : IsSound s) (der : s.der = s.encode)
    (short : s.encode.length < elementLimit) : HasComponents s (components s) where
  read := by
    have read := components?_encode h.writable short []
    rwa [List.append_nil, ← der] at read
  written := (rewritten_components s).symm
  certificates := (ordered_perm _).symm

/-- A signature that was read has the components of the octets that it keeps. -/
theorem exists_hasComponents_of_decode {b : Bytes} {s : Signature} (h : decode b = .ok s) :
    ∃ k, HasComponents s k := by
  have again := decode_append h []
  rw [List.append_nil] at again
  obtain ⟨k, certificates, info, found⟩ := exists_isReadAs again
  obtain ⟨kept, read⟩ := readCertificates_eq_ok found.taken
  obtain ⟨-, serial, issuer, -⟩ := found.signer_spec
  have perm : (s.certificates.map (·.der)).Perm (k.certificates.getD []) := by
    rw [← kept]
    exact found.certificates_perm.map _
  have sorted : ordered (s.certificates.map (·.der)) = ordered (k.certificates.getD []) := by
    rw [← kept]
    exact (ordered_der_eq_of_perm read found.certificates_perm.symm).symm
  have signers : k.signers.head?.toList.map (·.rewritten s.digest.algorithm)
      = [signerComponents s] := by
    rw [found.head]
    simp [signerComponents, SignerComponents.rewritten, serial, issuer, found.attributes,
      found.algorithm, found.value]
  refine ⟨k, found.components, ?_, perm⟩
  unfold components Components.rewritten
  rw [sorted, signers, found.contentInfo]

/-- Every signature that a run can hold has components, of which its parts are the rewritten form. -/
theorem Held.exists_components {s : Signature} (h : Held s) : ∃ k, HasComponents s k := by
  have sound := h.isSound
  cases h with
  | built read h =>
    have complete := (isComplete_of_build h).1
    exact ⟨_, sound.hasComponents complete.der complete.short⟩
  | decoded h => exact exists_hasComponents_of_decode h
  | augmented _ h =>
    obtain ⟨_, _, parts, _, _, short, rfl⟩ := augment_eq_ok h
    exact ⟨_, sound.hasComponents rfl short⟩

/-! ## Room -/

/-- Longer content makes a longer element. -/
theorem length_element_mono {identifier : UInt8} {a b : Bytes} (h : a.length ≤ b.length) :
    (element identifier a).length ≤ (element identifier b).length := by
  have count : Bytes.octetCount a.length ≤ Bytes.octetCount b.length :=
    Bytes.octetCount_le_iff.2 (lt_of_le_of_lt h (Bytes.lt_pow_octetCount b.length))
  have header : (lengthOctets a.length).length ≤ (lengthOctets b.length).length := by
    unfold lengthOctets
    by_cases short : b.length < 128
    · rw [if_pos (lt_of_le_of_lt h short), if_pos short]
      exact le_rfl
    · rw [if_neg short]
      split
      · simp
      · simpa [Bytes.length_minimal] using count
  rw [length_element, length_element]
  omega

/-- Further certificates make a signature longer. -/
theorem length_encode_le (s : Signature) (more : List Certificate) :
    (encode s).length ≤ (encode { s with others := s.others ++ more }).length := by
  have setSize : (Der.setOf 0xa0 (s.certificates.map (·.der))).length
      ≤ (Der.setOf 0xa0 ((s.certificates ++ more).map (·.der))).length := by
    apply length_element_mono
    rw [length_flatten_ordered, length_flatten_ordered]
    simp
  have data : (signedData s).length
      ≤ (signedData { s with others := s.others ++ more }).length := by
    apply length_element_mono
    simp only [List.flatten_cons, List.length_append]
    have same : signerInfo { s with others := s.others ++ more } = signerInfo s := rfl
    have certificates : ({ s with others := s.others ++ more } : Signature).certificates
      = s.certificates ++ more := rfl
    rw [same, certificates]
    omega
  apply length_element_mono
  simp only [List.flatten_cons, List.length_append]
  have tagged := @length_element_mono 0xa0 _ _ data
  exact Nat.add_le_add_left (Nat.add_le_add_right tagged _) _

/-! ## Adding certificates -/

/-- Augmenting succeeds if the bundle is accepted, the signer's issuer can be read and the octets are
not too many. -/
theorem augment_gives {s : Signature} {files : FileSystem} {path : String}
    {chain : List Certificate} (readable : IsReadable s.signer.issuer)
    (found : InputFile.bundle files path = .ok chain) {parts : Signature}
    (shape : parts = { s with others := s.others ++ chain })
    (short : parts.encode.length < elementLimit) :
    Run.Gives files (s.augment path) (.ok { parts with der := parts.encode }) := by
  have writes : Run.Gives files parts.written (.ok { parts with der := parts.encode }) := by
    intro w here
    refine ⟨w, written_eq_ok.2 ⟨?_, short, rfl, rfl⟩, here⟩
    rw [shape]
    exact readable
  unfold augment
  apply Run.gives_files
  intro w here
  rw [here, found]
  apply Run.Gives.seq (Run.gives_lift_id (.ok chain))
  apply Run.gives_tellIf
  rw [← shape]
  exact writes.seq ((Run.gives_tell _).seq (Run.gives_pure _))

section
variable {s t : Signature} {k : Components} {chain : List Certificate}

/-- What a signature is written with after certificates were added: the rewritten form of what it had,
with the further certificates in the set. -/
theorem HasComponents.components_augmented (has : HasComponents s k) (sound : IsSound s)
    (read : ∀ c ∈ chain, c.IsRead) :
    components { s with others := s.others ++ chain }
      = (k.rewritten s.digest.algorithm).withCertificates (chain.map (·.der)) := by
  have single : ∀ b ∈ (s.certificates ++ chain).map (·.der), IsSingle b := by
    intro b m
    obtain ⟨c, member, rfl⟩ := List.mem_map.1 m
    rcases List.mem_append.1 member with m | m
    · exact isSingle_of_isRead (sound.read c m)
    · exact isSingle_of_isRead (read c m)
  have perm : ((s.certificates ++ chain).map (·.der)).Perm
      (ordered (k.certificates.getD []) ++ chain.map (·.der)) := by
    rw [List.map_append]
    exact (has.certificates.trans (ordered_perm _).symm).append_right _
  calc components { s with others := s.others ++ chain }
      = { components s with
          certificates := some (ordered ((s.certificates ++ chain).map (·.der))) } := rfl
    _ = (k.rewritten s.digest.algorithm).withCertificates (chain.map (·.der)) := by
      rw [ordered_eq_of_perm single perm, has.written]
      rfl

/-- Adding the certificates of a bundle succeeds, and what it gives has the rewritten components. -/
theorem HasComponents.exists_augment (has : HasComponents s k) (sound : IsSound s) {w : World}
    {path : String} (found : InputFile.bundle w.files path = .ok chain)
    (short : (encode { s with others := s.others ++ chain }).length < elementLimit) :
    ∃ t w', s.augment path w = (.ok t, w') ∧
      t = { s with others := s.others ++ chain, der := t.der } ∧
      t.der = encode { s with others := s.others ++ chain } ∧
      components? t.der
        = some ((k.rewritten s.digest.algorithm).withCertificates (chain.map (·.der))) := by
  obtain ⟨w', augmented⟩ := (augment_gives sound.issuer found rfl short).exists_ok
  have read := components?_encode (sound.augment augmented).writable short []
  rw [List.append_nil] at read
  refine ⟨_, w', augmented, rfl, rfl, read.trans (congrArg some ?_)⟩
  exact has.components_augmented sound (InputFile.isRead_of_bundle found)

/-- A signature that was made, or one that was read from the octets of such a signature. -/
def IsOwn (s : Signature) : Prop :=
  ∃ i d made, i.certificate.IsRead ∧ Made i d made ∧ (s = made ∨ decode made.der = .ok s)

/-- A signature that was made, or read from the octets of one, keeps the octets of its own parts. -/
theorem IsOwn.der_eq (h : IsOwn s) : s.der = s.encode := by
  obtain ⟨i, d, made, read, isMade, rfl | decoded⟩ := h
  · exact isMade.isComplete.der
  · have complete := isMade.isComplete
    rw [← List.append_nil made.der] at decoded
    rw [complete.der_of_decode read decoded, (complete.encode_of_decode read decoded).1]

/-- **What adding certificates changes.** Whatever signature a run holds and whatever bundle it accepts,
as long as the octets are not too many, adding the certificates of the bundle succeeds, and of the parts
of the signature it changes the further certificates alone. The signature before has components `k`; the
one after has them in the form in which this library writes them, with the certificates of the bundle in
the set beside those that were there. If the signature keeps the octets of its own parts, as all do that
were made or read from the octets of such, every component but the set of certificates is as it was. An
empty bundle leaves the octets as they were exactly in that case. -/
theorem augment_components (held : Held s) {w : World} {path : String}
    (found : InputFile.bundle w.files path = .ok chain)
    (short : (encode { s with others := s.others ++ chain }).length < elementLimit) :
    ∃ t w' k, s.augment path w = (.ok t, w') ∧
      t = { s with others := s.others ++ chain, der := t.der } ∧ components? s.der = some k ∧
      components? t.der
        = some ((k.rewritten s.digest.algorithm).withCertificates (chain.map (·.der))) ∧
      (IsOwn s → s.der = s.encode) ∧
      (s.der = s.encode → components? t.der = some (k.withCertificates (chain.map (·.der)))) ∧
      (chain = [] → (t.der = s.der ↔ s.der = s.encode)) := by
  have sound := held.isSound
  obtain ⟨k, has⟩ := held.exists_components
  obtain ⟨t, w', augmented, parts, octets, read⟩ := has.exists_augment sound found short
  refine ⟨t, w', k, augmented, parts, has.read, read, IsOwn.der_eq, ?_, ?_⟩
  · intro der
    have own := sound.hasComponents der (lt_of_le_of_lt (length_encode_le s chain) short)
    obtain rfl := Option.some.inj (has.read.symm.trans own.read)
    rw [read, rewritten_components]
  · rintro rfl
    have same : t.der = s.encode := by rw [octets, List.append_nil]
    rw [same]
    exact eq_comm

end

/-! ## An empty bundle -/

/-- Surroundings with an empty bundle. -/
def emptyBundle : World := { noSurroundings with files := ⟨[(["e"], .file ⟨[], 0o644, none⟩)], []⟩ }

/-- The bundle of the example is empty. -/
theorem bundle_emptyBundle : InputFile.bundle emptyBundle.files "e" = .ok [] := by
  have there : InputFile.octets emptyBundle.files .chain "e" = .ok [] := by decide +kernel
  have nothing : Bundle.read [] = .ok [] := by
    unfold Bundle.read Bundle.blocks Bundle.markers
    rfl
  simp only [InputFile.bundle, there, Except.mapError, Outcome.ok_bind, nothing]
  rfl

/-- Adding the certificates of an empty bundle to the signature of the short key over the empty message
leaves its octets as they are. -/
theorem augment_components_shortIdentity : ∃ c s t w' k, c.IsRead ∧
    Made (shortIdentity c) (.compute .sha256 []) s ∧
    InputFile.bundle emptyBundle.files "e" = .ok [] ∧ s.augment "e" emptyBundle = (.ok t, w') ∧
    components? s.der = some k ∧ components? t.der = some (k.withCertificates []) ∧
    t.der = s.der := by
  obtain ⟨c, s, w', read, built, -⟩ := exists_build_shortIdentity
  have complete := (isComplete_of_build built).1
  have short : (encode { s with others := s.others ++ [] }).length < elementLimit := by
    rw [List.append_nil]
    exact complete.short
  obtain ⟨t, w', k, augmented, -, before, -, own, after, same⟩ :=
    augment_components (.built read built) bundle_emptyBundle short
  have der := own ⟨_, _, s, read, .built built, .inl rfl⟩
  exact ⟨c, s, t, w', k, read, .built built, bundle_emptyBundle, augmented, before, after der,
    (same rfl).2 der⟩

/-! ## A signature with a time stamp

Signed data by the short key's certificate, to run the definitions on. -/

/-- A signature with an attribute that is not authenticated, as time stamps are. -/
def stampedSignature : Bytes :=
  let d := Digest.compute .sha256 []
  let name := Der.sequence [element 0x31 (Der.sequence [identifier [2, 5, 4, 3],
    element 0x0c (Bytes.ofAscii "t")])]
  let signer := Der.sequence
    [integer 1, Der.sequence [name, integer 9], algorithmWithNull d.algorithm.oid,
      algorithmWithNull rsaOid, octetString [], element 0xa1 (Der.sequence [])]
  contentInfo signedDataOid (Der.sequence
    [integer 1, Der.setOf 0x31 [algorithmWithNull d.algorithm.oid],
      contentInfo indirectDataOid (bind d), Der.setOf 0xa0 [shortCertificate 9],
      Der.setOf 0x31 [signer]])

/-- Whether octets are a short signature with an attribute that is not authenticated. -/
def isStamped (b : Bytes) : Bool :=
  match decode b, components? b with
  | .ok s, some k =>
    s.der = b && s.encode.length < 1000 && k.signers.any (·.unauthenticated.isSome)
  | _, _ => false

set_option maxRecDepth 100000 in
/-- The signature of the example is stamped. -/
theorem isStamped_stampedSignature : isStamped stampedSignature = true := by decide +kernel

/-- A stamped signature decodes, and one of its signers has attributes that are not authenticated. -/
theorem exists_decode_of_isStamped {b : Bytes} (h : isStamped b = true) : ∃ s k,
    decode b = .ok s ∧ components? b = some k ∧ s.der = b ∧ s.encode.length < 1000 ∧
      ∃ info ∈ k.signers, info.unauthenticated ≠ none := by
  unfold isStamped at h
  split at h
  · rename_i s k decoded found
    simp only [Bool.and_eq_true, decide_eq_true_eq, List.any_eq_true, Option.isSome_iff_ne_none] at h
    obtain ⟨⟨der, short⟩, stamp⟩ := h
    exact ⟨s, k, decoded, found, der, short, stamp⟩
  · cases h

/-- A signer that is written again has none. -/
theorem unauthenticated_rewritten {k : Components} {a : DigestAlgorithm} :
    ∀ info ∈ (k.rewritten a).signers, info.unauthenticated = none := by
  intro info m
  obtain ⟨_, -, rfl⟩ := List.mem_map.1 m
  rfl

/-- The signature with a time stamp can be read, and adding the certificates of an empty bundle to it
succeeds, but the time stamp is lost: the signers and the octets are others. -/
theorem stamp_lost_stampedSignature : ∃ s t w' k k', decode stampedSignature = .ok s ∧
    InputFile.bundle emptyBundle.files "e" = .ok [] ∧ s.augment "e" emptyBundle = (.ok t, w') ∧
    components? s.der = some k ∧ components? t.der = some k' ∧ k'.signers ≠ k.signers ∧
    t.der ≠ s.der := by
  obtain ⟨s, k, decoded, found, der, short, info, member, stamped⟩ :=
    exists_decode_of_isStamped isStamped_stampedSignature
  obtain ⟨k₀, has⟩ := exists_hasComponents_of_decode decoded
  obtain rfl : k₀ = k := by
    rw [← der] at found
    exact Option.some.inj (has.read.symm.trans found)
  have fits : (encode { s with others := s.others ++ [] }).length < elementLimit := by
    rw [List.append_nil]
    exact lt_trans short (by decide)
  obtain ⟨t, w', augmented, -, -, read⟩ :=
    has.exists_augment (isSound_of_decode decoded) bundle_emptyBundle fits
  have lost : ((k₀.rewritten s.digest.algorithm).withCertificates
      (([] : List Certificate).map (·.der))).signers ≠ k₀.signers := by
    intro same
    rw [← same] at member
    exact stamped (unauthenticated_rewritten info member)
  refine ⟨s, t, w', k₀, _, decoded, bundle_emptyBundle, augmented, has.read, read, lost, ?_⟩
  intro kept
  rw [kept, has.read] at read
  exact lost (congrArg Components.signers (Option.some.inj read)).symm

end ImageSigning.Signature
