import ImageSigning.Proofs.Der.SetOf
import ImageSigning.Proofs.Signature.Held

/-!
# What is signed is what is embedded

The octets that a key signs and the octets that stand in the signature are the same set of attributes
under two tags. A verifier finds the attributes by their place, puts the tag of a universal SET where
the implicit tag stands, and has the message. Since attributes are elements, the set has one order, so
message and signature do not depend on the order in which the attributes are given.

* **`attributesField?`** — the element at the place of the attributes, found by structure alone.
* **`IsFormed`** — what the attributes and the other parts have to be: elements, and identifiers that
  can be written. `Held.isFormed`: every signature that a run holds is formed.
* **`written_attributes`** — embedded and signed attributes agree behind the tag, in every order.
-/

namespace ImageSigning.Signature

open Der Tlv

/-! ## The place of the attributes -/

/-- The one signer in the octets of a signature, as an element. -/
def soleSigner? (b : Bytes) : Option Tlv := do
  let outer ← readOnly? .basic b
  let [_, tagged] ← outer.sequence? .basic | none
  let data ← readOnly? .basic tagged.content
  let [_version, _algorithms, _content, _certificates, signers] ← data.sequence? .basic | none
  let [signer] ← signers.set? .basic | none
  some signer

/-- The element at the place of the authenticated attributes of the one signer, if it carries their
tag. -/
def attributesField? (b : Bytes) : Option Bytes := do
  let signer ← soleSigner? b
  let _version :: _name :: _digestAlgorithm :: attributes :: _ ← signer.sequence? .basic | none
  if attributes.isContext 0 then some attributes.whole else none

/-- What has to hold of the parts of a signature for its attributes to be found where they belong. -/
structure IsFormed (s : Signature) : Prop where
  signer : s.signer.IsRead
  contentType : s.contentType.encode?.isSome
  algorithm : s.algorithm.encode?.isSome
  attributes : ∀ a ∈ s.attributes, IsSingle a

/-- A signature that is sound has the form that is written. -/
theorem IsSound.isFormed {s : Signature} (h : IsSound s) : IsFormed s where
  signer := h.read s.signer (List.mem_cons_self ..)
  contentType := h.writable.contentType
  algorithm := h.writable.algorithm
  attributes a m := by
    obtain ⟨e, denotes, -⟩ := h.writable.attributes a m
    exact ⟨e, denotes⟩

/-- Every signature that a run can hold is formed. -/
theorem Held.isFormed {s : Signature} (h : Held s) : IsFormed s := h.isSound.isFormed

section
variable {s : Signature}

/-- The octets of a formed signature hold one signer, which is the one that was written. -/
theorem IsFormed.soleSigner?_encode (h : IsFormed s) (short : s.encode.length < elementLimit) :
    ∃ e, Denotes .basic (signerInfo s) e ∧ soleSigner? s.encode = some e := by
  have dataShort := length_signedData_lt short
  obtain ⟨outer, _, outerHere, outerMembers, -⟩ :=
    @denotes_contentInfo .basic signedDataOid (signedData s) (by decide)
      (length_content_lt_of_element short)
  obtain ⟨data, _, _, dataHere, dataMembers, -⟩ := denotes_signedData h.contentType dataShort
  obtain ⟨signer, _, _, _, signerHere, -⟩ :=
    denotes_signerInfo (isKept_of_isUniversal h.signer.denotes_issuer) h.algorithm
      (length_signerInfo_lt dataShort)
  have signers : (made 0x31 (signerInfo s)).set? .basic = some [signer] := by
    rw [set?_made, readMany?_of_denotes signerHere]
  refine ⟨signer, signerHere, ?_⟩
  have alone : readOnly? .basic s.encode = some outer := readOnly?_of_denotes outerHere
  have inside : readOnly? .basic (signedData s) = some data := readOnly?_of_denotes dataHere
  simp [soleSigner?, alone, outerMembers, inside, dataMembers, signers]

/-- The attributes stand at their place, in the form in which they are embedded. -/
theorem IsFormed.attributesField?_encode (h : IsFormed s) (nonempty : s.attributes ≠ [])
    (short : s.encode.length < elementLimit) :
    attributesField? s.encode = some (embeddedForm s.attributes) := by
  obtain ⟨e, here, sole⟩ := h.soleSigner?_encode short
  obtain ⟨_, _, _, _, here', members, -⟩ :=
    denotes_signerInfo (isKept_of_isUniversal h.signer.denotes_issuer) h.algorithm
      (length_signerInfo_lt (length_signedData_lt short))
  obtain rfl := here.unique here'
  have filled : s.attributes.isEmpty = false := by simpa using nonempty
  have context := isContext_made_a0 (ordered s.attributes).flatten
  simp only [attributeElements, filled, Bool.false_eq_true, if_false, List.singleton_append]
    at members
  simp [attributesField?, sole, members, context]
  rfl

end

/-! ## Every order -/

/-- The octets that are signed do not depend on the order of the attributes. -/
theorem signedForm_eq_of_perm {l l' : List Bytes} (single : ∀ a ∈ l, IsSingle a) (h : l.Perm l') :
    signedForm l = signedForm l' := by
  rw [signedForm_eq, signedForm_eq, setOf_eq_of_perm single h]

/-- The octets of a signature do not depend on the order of its attributes. -/
theorem encode_eq_of_perm {s : Signature} {l : List Bytes} (single : ∀ a ∈ s.attributes, IsSingle a)
    (h : s.attributes.Perm l) : encode { s with attributes := l } = encode s := by
  apply AreWrittenAlike.encode_eq
  exact {
    digest := rfl
    value := rfl
    algorithm := rfl
    content := rfl
    contentType := rfl
    serial := rfl
    issuer := rfl
    attributes := (ordered_eq_of_perm single h).symm
    certificates := rfl }

/-- **What is signed is what is embedded.** Whenever a signature with attributes is written, what stands
at the place of the attributes is what is signed, octet by octet, but for the first octet: the tag of a
universal SET in what is signed, the implicit tag in what is embedded. Both are the same for every order
in which the attributes can be given. -/
theorem written_attributes {s t : Signature} {w w' : World} (formed : IsFormed s)
    (nonempty : s.attributes ≠ []) (h : s.written w = (.ok t, w')) :
    ∃ rest, signedForm s.attributes = 0x31 :: rest ∧ attributesField? t.der = some (0xa0 :: rest) ∧
      ∀ l, l.Perm s.attributes → signedForm l = 0x31 :: rest ∧
        ∃ u, ({ s with attributes := l } : Signature).written w = (.ok u, w') ∧ u.der = t.der := by
  obtain ⟨readable, short, rfl, rfl⟩ := written_eq_ok.1 h
  have field : attributesField? s.encode = some (0xa0 :: (signedForm s.attributes).drop 1) :=
    formed.attributesField?_encode nonempty short
  refine ⟨(signedForm s.attributes).drop 1, rfl, field, ?_⟩
  intro l perm
  have same := encode_eq_of_perm formed.attributes perm.symm
  refine ⟨(signedForm_eq_of_perm formed.attributes perm.symm).symm,
    { s with attributes := l, der := encode { s with attributes := l } }, ?_, same⟩
  exact written_eq_ok.2 ⟨readable, by rwa [same], rfl, rfl⟩

/-- In the signature of the short key over the empty message, and with its attributes the other way
round, the embedded attributes are the signed ones. -/
theorem written_attributes_shortIdentity : ∃ s t : Signature, IsFormed s ∧ s.attributes ≠ [] ∧
    s.written noSurroundings = (.ok t, noSurroundings) ∧
    ∃ rest, attributesField? t.der = some (0xa0 :: rest) ∧
      signedForm s.attributes = 0x31 :: rest ∧ signedForm s.attributes.reverse = 0x31 :: rest := by
  obtain ⟨c, s, w', read, built, -⟩ := exists_build_shortIdentity
  have complete := (isComplete_of_build built).1
  have formed := (Held.built read built).isFormed
  have nonempty : s.attributes ≠ [] := by
    rw [complete.attributes, ← List.isEmpty_eq_false_iff]
    exact isEmpty_attributesFor _ _
  have writes : s.written noSurroundings = (.ok { s with der := s.encode }, noSurroundings) :=
    written_eq_ok.2 ⟨complete.issuer, complete.short, rfl, rfl⟩
  obtain ⟨rest, signed, field, orders⟩ := written_attributes formed nonempty writes
  obtain ⟨turned, -⟩ := orders _ s.attributes.reverse_perm
  exact ⟨s, _, formed, nonempty, writes, rest, field, signed, turned⟩

end ImageSigning.Signature
