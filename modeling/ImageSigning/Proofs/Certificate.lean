import ImageSigning.InputFile
import ImageSigning.Proofs.Der.Values
import ImageSigning.Proofs.Outcome

/-!
# Certificates that were read

A certificate in memory always comes from octets. `Certificate.IsRead` says so: reading its octets
again gives the certificate. Whatever a run takes from a file has this property, and the property is
what makes a certificate and the name of its issuer usable as parts of a signature.

* **`isRead_of_ofDer`**, **`InputFile.isRead_of_certificate`**, **`InputFile.isRead_of_bundle`** —
  every certificate that is read is one that was read.
* **`IsRead.denotes`**, **`IsRead.denotes_issuer`** — certificate and issuer are single SEQUENCE
  elements.
-/

namespace ImageSigning

open Der

namespace Certificate

/-- Whether a certificate is what its octets are read as. -/
def IsRead (c : Certificate) : Prop := ofDer c.der = .ok c

/-- A certificate that is read from octets was read as one. -/
theorem isRead_of_ofDer {b : Bytes} {c : Certificate} (h : ofDer b = .ok c) : c.IsRead := by
  unfold IsRead
  rw [ofDer_der h, h]

/-! ## The elements of a certificate -/

/-- What is read as a sequence has the tag of one. -/
theorem isUniversal_of_sequence? {rules : Rules} {e : Tlv} {es : List Tlv}
    (h : e.sequence? rules = some es) : e.isUniversal 16 = true := by
  unfold Tlv.sequence? at h
  split at h
  · assumption
  · simp at h

/-- The parts of a sequence are elements that their own octets denote. -/
theorem denotes_of_sequence? {rules : Rules} {e : Tlv} {es : List Tlv}
    (h : e.sequence? rules = some es) : ∀ m ∈ es, Tlv.Denotes rules m.whole m := by
  unfold Tlv.sequence? at h
  split at h
  · exact Tlv.denotes_of_members? h
  · simp at h

/-- Taking the version off leaves parts that were there. -/
theorem subset_of_splitVersion? {parts rest : List Tlv} {version : Nat}
    (h : splitVersion? parts = some (version, rest)) : rest ⊆ parts := by
  unfold splitVersion? at h
  rcases parts with _ | ⟨e, parts⟩
  · simp [Tlv.splitContext] at h
    simp [h]
  · simp only [Tlv.splitContext] at h
    split at h
    · rename_i parted
      split at parted
      · simp at parted
      · obtain ⟨-, rfl⟩ := Prod.mk.inj parted
        obtain ⟨-, rfl⟩ := Prod.mk.inj (Option.some.inj h)
        exact List.Subset.refl _
    · rename_i parted
      split at parted
      · obtain ⟨-, rfl⟩ := Prod.mk.inj parted
        simp only [Option.bind_eq_bind, Option.bind_eq_some_iff] at h
        obtain ⟨_, _, _, _, h⟩ := h
        split at h
        · simp at h
        · obtain ⟨-, rfl⟩ := Prod.mk.inj (Option.some.inj h)
          exact List.subset_cons_self _ _
      · simp at parted

/-- The issuer of a certificate is a single SEQUENCE element. -/
theorem denotes_issuer_of_ofBody? {der : Bytes} {body : Tlv} {version : Nat} {c : Certificate}
    (h : ofBody? der body = some (version, c)) :
    ∃ e, Tlv.Denotes .distinguished c.issuer.whole e ∧ e.isUniversal 16 = true := by
  simp only [ofBody?, Option.bind_eq_bind, Option.bind_eq_some_iff, Prod.exists] at h
  obtain ⟨members, inside, v, parts, versioned, h⟩ := h
  split at h
  · rename_i serial algorithm issuer validity subject key rest
    simp only [Option.bind_eq_some_iff] at h
    obtain ⟨_, _, _, _, name, named, h⟩ := h
    split at h
    · simp at h
    · simp only [Option.bind_eq_some_iff] at h
      obtain ⟨_, _, _, _, _, _, _, _, h⟩ := h
      split at h
      · simp at h
      · obtain ⟨-, rfl⟩ := Prod.mk.inj (Option.some.inj h)
        simp only [Name.ofTlv?, Option.bind_eq_bind, Option.bind_eq_some_iff] at named
        obtain ⟨groups, isSequence, _, _, named⟩ := named
        obtain rfl := Option.some.inj named
        refine ⟨issuer, ?_, isUniversal_of_sequence? isSequence⟩
        apply denotes_of_sequence? inside
        exact subset_of_splitVersion? versioned (by simp)
  · simp at h

/-- A certificate that was read is a single SEQUENCE element, and so is the name of its issuer. -/
theorem IsRead.elements {c : Certificate} (h : c.IsRead) :
    (∃ e, Tlv.Denotes .distinguished c.der e ∧ e.isUniversal 16 = true) ∧
      ∃ e, Tlv.Denotes .distinguished c.issuer.whole e ∧ e.isUniversal 16 = true := by
  unfold IsRead ofDer at h
  split at h
  · simp at h
  · rename_i version c' found
    split at h
    · obtain rfl := Except.ok.inj h
      simp only [read?, Option.bind_eq_bind, Option.bind_eq_some_iff] at found
      obtain ⟨outer, alone, members, inside, found⟩ := found
      obtain ⟨whole, denotes⟩ := Tlv.denotes_of_readOnly? alone
      refine ⟨⟨outer, whole ▸ denotes, isUniversal_of_sequence? inside⟩, ?_⟩
      split at found
      · simp only [Option.bind_eq_some_iff] at found
        obtain ⟨result, body, _, _, _, _, eq⟩ := found
        exact denotes_issuer_of_ofBody? (body.trans eq)
      · simp at found
    · simp at h

/-- The octets of a certificate are a sequence. -/
theorem IsRead.denotes {c : Certificate} (h : c.IsRead) :
    ∃ e, Tlv.Denotes .distinguished c.der e ∧ e.isUniversal 16 = true := h.elements.1

/-- The octets of a certificate's issuer are a sequence. -/
theorem IsRead.denotes_issuer {c : Certificate} (h : c.IsRead) :
    ∃ e, Tlv.Denotes .distinguished c.issuer.whole e ∧ e.isUniversal 16 = true := h.elements.2

/-! ## Where certificates come from -/

/-- A certificate that is read from text was read as one. -/
theorem isRead_of_ofPem {b : Bytes} {c : Certificate} (h : ofPem b = .ok c) : c.IsRead := by
  unfold ofPem at h
  obtain ⟨blocks, -, h⟩ := Outcome.bind_eq_ok.1 h
  split at h
  · cases h
  · exact isRead_of_ofDer (Outcome.mapError_eq_ok.1 h)

/-- A certificate that is read from a file in either encoding was read as one. -/
theorem isRead_of_ofFile {b : Bytes} {c : Certificate} (h : ofFile b = .ok c) : c.IsRead := by
  unfold ofFile at h
  split at h
  · exact isRead_of_ofPem h
  · exact isRead_of_ofDer (Outcome.mapError_eq_ok.1 h)

end Certificate

namespace Bundle

/-- The certificate in a block of a bundle was read as one. -/
theorem isRead_of_readBlock {number : Nat} {block : Bytes} {c : Certificate}
    (h : readBlock number block = .ok c) : c.IsRead := by
  unfold readBlock at h
  split at h
  · simp at h
  · split at h
    · rename_i found
      obtain rfl := Except.ok.inj h
      exact Certificate.isRead_of_ofPem found
    · simp at h
    · simp at h

/-- The certificates in several blocks were read as such. -/
theorem isRead_of_readBlocks {number : Nat} {blocks : List Bytes} {cs : List Certificate}
    (h : readBlocks number blocks = .ok cs) : ∀ c ∈ cs, c.IsRead := by
  induction blocks generalizing number cs with
  | nil =>
    obtain rfl := Except.ok.inj h
    simp
  | cons block blocks ih =>
    unfold readBlocks at h
    obtain ⟨c, first, h⟩ := Outcome.bind_eq_ok.1 h
    obtain ⟨others, rest, h⟩ := Outcome.bind_eq_ok.1 h
    obtain rfl := Outcome.pure_eq_ok.1 h
    intro d m
    rcases List.mem_cons.1 m with rfl | m
    · exact isRead_of_readBlock first
    · exact ih rest d m

/-- The certificates of a bundle were read as such. -/
theorem isRead_of_read {b : Bytes} {cs : List Certificate} (h : read b = .ok cs) :
    ∀ c ∈ cs, c.IsRead := by
  unfold read at h
  obtain ⟨certificates, found, h⟩ := Outcome.bind_eq_ok.1 h
  split at h
  · obtain rfl := Outcome.pure_eq_ok.1 h
    exact isRead_of_readBlocks found
  · cases h

end Bundle

namespace InputFile

/-- The certificate at a path was read as one. -/
theorem isRead_of_certificate {fs : FileSystem} {path : String} {c : Certificate}
    (h : certificate fs path = .ok c) : c.IsRead := by
  unfold certificate at h
  obtain ⟨b, -, h⟩ := Outcome.bind_eq_ok.1 h
  split at h
  · rename_i found
    obtain rfl := Outcome.pure_eq_ok.1 h
    exact Certificate.isRead_of_ofFile found
  · cases h
  · cases h

/-- The certificates of a bundle at a path were read as such. -/
theorem isRead_of_bundle {fs : FileSystem} {path : String} {cs : List Certificate}
    (h : bundle fs path = .ok cs) : ∀ c ∈ cs, c.IsRead := by
  unfold bundle at h
  obtain ⟨b, -, h⟩ := Outcome.bind_eq_ok.1 h
  split at h
  · rename_i found
    obtain rfl := Outcome.pure_eq_ok.1 h
    exact Bundle.isRead_of_read found
  · cases h
  · cases h

end InputFile

end ImageSigning
