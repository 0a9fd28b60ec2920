import ImageSigning.Proofs.Signature.Extent
import ImageSigning.Proofs.Signature.RoundTrip

/-!
# The signatures that a run holds

A signature in memory was built, or read from octets, or has had the certificates of a bundle added to
it. However it came about, its parts can be written and what is written can be read: identifiers can be
written because they are this library's own or were read, and whatever is kept as octets is an element
because it was written or read as one.

* **`IsReadAs`** — everything that the reading of a signature has found out.
* **`Held`** — the signatures that building, reading and augmenting lead to.
* **`Held.isSound`** — the invariant: kept by every step, and so by every sequence of steps.
-/

namespace ImageSigning.Signature

open Der Tlv

/-! ## What reading finds out -/

/-- Everything that the reading of a signature from octets has found out: the components, the
certificates, and the signer whose certificate is looked for. -/
structure IsReadAs (b : Bytes) (s : Signature) (k : Components) (certificates : List Certificate)
    (info : SignerComponents) : Prop where
  components : components? b = some k
  contentInfo : k.contentInfo = ⟨s.contentType, some s.content⟩
  taken : readCertificates (k.certificates.getD []) = .ok certificates
  head : k.signers.head? = some info
  signer : findSigner info.serial info.issuer certificates = .ok s.signer
  others : s.others = certificates.erase s.signer
  value : s.value = info.value
  algorithm : s.algorithm = info.signatureAlgorithm.oid
  attributes : s.attributes = info.attributes.getD []

/-- A signature that was read has been found to be one. -/
theorem exists_isReadAs {b : Bytes} {s : Signature} (h : decode b = .ok s) :
    ∃ k certificates info, IsReadAs b s k certificates info := by
  unfold decode at h
  obtain ⟨⟨⟨type, inner⟩, der, rest⟩, read, h⟩ := Outcome.bind_eq_ok.1 h
  dsimp only at h
  rw [Outcome.failUnless_eq_ok] at h
  obtain ⟨signed, h⟩ := h
  obtain ⟨data, found, h⟩ := Outcome.bind_eq_ok.1 h
  obtain ⟨content, contentGiven, h⟩ := Outcome.bind_eq_ok.1 h
  obtain ⟨bound, -, h⟩ := Outcome.bind_eq_ok.1 h
  split at h
  · rw [pure_bind] at h
    obtain ⟨digest, -, h⟩ := Outcome.bind_eq_ok.1 h
    obtain ⟨certificates, taken, h⟩ := Outcome.bind_eq_ok.1 h
    obtain ⟨info, head, h⟩ := Outcome.bind_eq_ok.1 h
    obtain ⟨signer, search, h⟩ := Outcome.bind_eq_ok.1 h
    obtain rfl := Outcome.pure_eq_ok.1 h
    obtain ⟨octets, rfl, inside⟩ := Option.bind_eq_some_iff.1 (require_eq_ok.1 found)
    rw [SignedData.read?_eq] at inside
    obtain ⟨k, components, rfl⟩ := Option.map_eq_some_iff.1 inside
    have first : (k.signers.map SignerComponents.essence).head? = some info := require_eq_ok.1 head
    rw [List.head?_map] at first
    obtain ⟨signerComponents, head', rfl⟩ := Option.map_eq_some_iff.1 first
    obtain rfl : type = signedDataOid := by simpa using signed
    refine ⟨k, certificates, signerComponents, ?_⟩
    exact {
      components := by simp [components?, require_eq_ok.1 read, components]
      contentInfo := by
        rw [← require_eq_ok.1 contentGiven]
        rfl
      taken := taken
      head := head'
      signer := search
      others := rfl
      value := rfl
      algorithm := rfl
      attributes := rfl }
  · simp [Outcome.throw_bind] at h

/-- Certificates that were taken from octets keep them. -/
theorem readCertificates_eq_ok {encodings : List Bytes} {certificates : List Certificate}
    (h : readCertificates encodings = .ok certificates) :
    certificates.map (·.der) = encodings ∧ ∀ c ∈ certificates, c.IsRead := by
  unfold readCertificates at h
  rw [Outcome.mapM_eq_ok_iff] at h
  induction h with
  | nil => simp
  | @cons b c _ _ here _ ih =>
    have read : Certificate.ofDer b = .ok c := Outcome.mapError_eq_ok.1 here
    refine ⟨by rw [List.map_cons, ih.1, Certificate.ofDer_der read], ?_⟩
    intro d m
    rcases List.mem_cons.1 m with rfl | m
    · exact Certificate.isRead_of_ofDer read
    · exact ih.2 d m

section
variable {b : Bytes} {s : Signature} {k : Components} {certificates : List Certificate}
  {info : SignerComponents}

/-- The signer's certificate is one of those that were taken, and carries the name that was looked
for. -/
theorem IsReadAs.signer_spec (h : IsReadAs b s k certificates info) : s.signer ∈ certificates ∧
    s.signer.serial = info.serial ∧ s.signer.issuer.whole = info.issuer ∧
    IsReadable s.signer.issuer := by
  obtain ⟨first, readable⟩ := findSigner_eq_ok_iff.1 h.signer
  obtain ⟨-, -, -, ⟨serial, name⟩, -⟩ := id first
  exact ⟨first.mem, serial, name.resolve_right fun unreadable => unreadable readable, readable⟩

/-- The certificates of a signature that was read are those that were taken, the signer's first. -/
theorem IsReadAs.certificates_perm (h : IsReadAs b s k certificates info) :
    s.certificates.Perm certificates := by
  rw [Signature.certificates, h.others]
  exact (List.perm_cons_erase h.signer_spec.1).symm

end

/-! ## What every step keeps -/

/-- A signature whose parts can be written and are read back from what is written. -/
structure IsSound (s : Signature) : Prop where
  writable : IsWritable .basic s
  read : ∀ c ∈ s.certificates, c.IsRead
  issuer : IsReadable s.signer.issuer

/-- The signatures that a run can hold: built by an identity with a certificate that was read, read
from octets, or augmented. -/
inductive Held : Signature → Prop
  | built {i : Identity} {d : Digest} {s : Signature} {w w' : World} (read : i.certificate.IsRead)
      (h : build i d w = (.ok s, w')) : Held s
  | decoded {b : Bytes} {s : Signature} (h : decode b = .ok s) : Held s
  | augmented {s t : Signature} {path : String} {w w' : World} (before : Held s)
      (h : s.augment path w = (.ok t, w')) : Held t

/-- A signature that was built and added to is sound. -/
theorem IsComplete.isSound {i : Identity} {d : Digest} {s : Signature} (h : IsComplete i d s)
    (read : i.certificate.IsRead) : IsSound s where
  writable := h.isWritable read
  read := h.isRead read
  issuer := h.issuer

/-- A signature that was decoded is sound. -/
theorem isSound_of_decode {b : Bytes} {s : Signature} (h : decode b = .ok s) : IsSound s := by
  obtain ⟨k, certificates, info, found⟩ := exists_isReadAs h
  obtain ⟨-, -, -, readable⟩ := found.signer_spec
  have read : ∀ c ∈ s.certificates, c.IsRead := fun c m =>
    (readCertificates_eq_ok found.taken).2 c (found.certificates_perm.mem_iff.1 m)
  obtain ⟨type, signers⟩ := writable_of_components found.components
  obtain ⟨e, signerRead⟩ := signers info (List.mem_of_mem_head? found.head)
  obtain ⟨algorithm, attributes⟩ := writable_of_ofTlv? signerRead
  refine ⟨?_, read, readable⟩
  exact {
    contentType := by
      rw [found.contentInfo] at type
      exact type
    algorithm := by
      rw [found.algorithm]
      exact algorithm
    issuer := isKept_of_isUniversal (read s.signer (List.mem_cons_self ..)).denotes_issuer
    attributes := by
      rw [found.attributes]
      exact attributes
    certificates := fun c m => isKept_of_isUniversal (read c m).denotes }

/-- Adding a bundle to a sound signature leaves it sound. -/
theorem IsSound.augment {s t : Signature} {path : String} {w w' : World} (before : IsSound s)
    (h : s.augment path w = (.ok t, w')) : IsSound t := by
  obtain ⟨chain, found, parts, shape, readable, -, rfl⟩ := augment_eq_ok h
  have others : parts.others = s.others ++ chain := by rw [shape]
  have read : ∀ c ∈ parts.certificates, c.IsRead := by
    intro c m
    rw [shape, certificates] at m
    rcases List.mem_cons.1 m with rfl | m
    · exact before.read s.signer (List.mem_cons_self ..)
    rcases List.mem_append.1 m with m | m
    · exact before.read c (List.mem_cons_of_mem _ m)
    · exact InputFile.isRead_of_bundle found c m
  refine ⟨?_, read, readable⟩
  exact {
    contentType := by
      rw [shape]
      exact before.writable.contentType
    algorithm := by
      rw [shape]
      exact before.writable.algorithm
    issuer := by
      rw [shape]
      exact before.writable.issuer
    attributes := by
      rw [shape]
      exact before.writable.attributes
    certificates := fun c m => isKept_of_isUniversal (read c m).denotes }

/-- Every signature that a run can hold is sound. -/
theorem Held.isSound {s : Signature} (h : Held s) : IsSound s := by
  induction h with
  | built read h => exact (isComplete_of_build h).1.isSound read
  | decoded h => exact isSound_of_decode h
  | augmented _ h ih => exact ih.augment h

end ImageSigning.Signature
