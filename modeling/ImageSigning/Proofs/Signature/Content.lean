import ImageSigning.Der.Header
import ImageSigning.Proofs.Signature.Parts

/-!
# The content that a digest is bound into

The content that binds a digest is read back as that digest, whatever follows it. Its header is found
by the length alone: stripping it leaves the octets that the content's own digest is taken over, also
where the length takes the long form.

* **`content?_element`** — the header of a written element is found by the length alone.
* **`denotes_bind`** — the members of a bound digest.
* **`read?_bind`** — a bound digest reads back.
-/

namespace ImageSigning

open Der Tlv

namespace Der

/-- The high bit of an octet and the other seven. -/
theorem octet_bits (x : UInt8) :
    (x &&& 0x80 = 0 ↔ x < 128) ∧ (x &&& 0x7f).toNat = x.toNat % 128 := by
  have every : ∀ n : Fin 256, (UInt8.ofNat n &&& 0x80 = 0 ↔ UInt8.ofNat n < 128) ∧
      (UInt8.ofNat n &&& 0x7f).toNat = (UInt8.ofNat n).toNat % 128 := by decide +kernel
  simpa using every ⟨x.toNat, x.toNat_lt⟩

/-- The two forms of a length: itself in one octet, or a marked count and as many octets. -/
theorem lengthOctets_eq (n : Nat) (h : n < 256 ^ 126) :
    (∃ x, lengthOctets n = [x] ∧ x &&& 0x80 = 0 ∧ x.toNat = n) ∨
      ∃ x, lengthOctets n = x :: Bytes.minimal n ∧ x &&& 0x80 ≠ 0 ∧
        (x &&& 0x7f).toNat = (Bytes.minimal n).length ∧ (Bytes.minimal n).length ≠ 0 := by
  unfold lengthOctets
  split
  · rename_i short
    have value : (UInt8.ofNat n).toNat = n :=
      UInt8.toNat_ofNat_of_lt' (by change n < 256; omega)
    refine .inl ⟨_, rfl, (octet_bits _).1.2 ?_, value⟩
    rw [UInt8.lt_iff_toNat_lt, value]
    exact short
  · rename_i long
    have few : Bytes.octetCount n ≤ 126 := Bytes.octetCount_le_iff.2 h
    have positive : 0 < Bytes.octetCount n := Bytes.octetCount_pos (by omega)
    have value : (UInt8.ofNat (128 + Bytes.octetCount n)).toNat = 128 + Bytes.octetCount n :=
      UInt8.toNat_ofNat_of_lt' (by change 128 + Bytes.octetCount n < 256; omega)
    refine .inr ⟨_, rfl, ?_, ?_, ?_⟩
    · intro low
      have := (octet_bits _).1.1 low
      rw [UInt8.lt_iff_toNat_lt, value] at this
      simp at this
    · rw [(octet_bits _).2, value, Bytes.length_minimal]
      omega
    · rw [Bytes.length_minimal]
      omega

/-- Stripping the header of a written element leaves its content. -/
theorem content?_element {identifier : UInt8} {content : Bytes} (h : content.length < 256 ^ 126) :
    content? (element identifier content) = some content := by
  unfold element
  rcases lengthOctets_eq content.length h with ⟨x, shown, low, -⟩ | ⟨x, shown, high, count, -⟩
  · rw [shown]
    simp [content?, low]
  · rw [shown, List.cons_append]
    simp [content?, high, count, -UInt8.toNat_and]

end Der

namespace Signature

variable {rules : Rules}

/-- No digest has more than 64 octets. -/
theorem length_octets_le (d : Digest) : d.octets.length ≤ 64 := by
  rw [d.length_octets]
  cases d.algorithm <;> decide

/-- The length of a content of less than 65536 octets takes three octets. -/
theorem length_lengthOctets_le {n : Nat} (h : n < 65536) : (lengthOctets n).length ≤ 3 := by
  unfold lengthOctets
  split
  · simp
  · rw [List.length_cons, Bytes.length_minimal]
    have : Bytes.octetCount n ≤ 2 := Bytes.octetCount_le_iff.2 h
    omega

/-- An element is longer than a content of less than 65536 octets by four at most. -/
theorem length_element_le {identifier : UInt8} {content : Bytes} (h : content.length < 65536) :
    (element identifier content).length ≤ 4 + content.length := by
  rw [length_element]
  have := length_lengthOctets_le h
  omega

/-- The content that binds a digest is short, so that every rule reads it. -/
theorem length_bind_lt (d : Digest) : (bind d).length < rules.lengthLimit := by
  have limit : 300 < rules.lengthLimit := by cases rules <;> decide
  have type : (identifier imageDataOid).length = 12 := by decide
  have text : obsoleteDescription.length = 39 := by decide
  have algorithm : (algorithmWithNull d.algorithm.oid).length = 15 := by
    cases d.algorithm <;> decide
  have octets := length_octets_le d
  have value : (octetString d.octets).length ≤ 4 + d.octets.length :=
    length_element_le (by omega)
  have data : (Der.sequence [identifier imageDataOid, obsoleteDescription]).length ≤ 55 := by
    have := @length_element_le 0x30 [identifier imageDataOid, obsoleteDescription].flatten
      (by simp [type, text])
    simpa [Der.sequence, type, text] using this
  have digest : (Der.sequence [algorithmWithNull d.algorithm.oid, octetString d.octets]).length
      ≤ 87 := by
    have := @length_element_le 0x30
      [algorithmWithNull d.algorithm.oid, octetString d.octets].flatten
      (by simp [algorithm]; omega)
    simp only [List.flatten_cons, List.flatten_nil, List.append_nil, List.length_append,
      algorithm] at this
    unfold Der.sequence
    simp only [List.flatten_cons, List.flatten_nil, List.append_nil]
    omega
  have whole := @length_element_le 0x30
    [Der.sequence [identifier imageDataOid, obsoleteDescription],
      Der.sequence [algorithmWithNull d.algorithm.oid, octetString d.octets]].flatten
    (by
      simp only [List.flatten_cons, List.flatten_nil, List.append_nil, List.length_append]
      omega)
  simp only [List.flatten_cons, List.flatten_nil, List.append_nil, List.length_append] at whole
  unfold bind
  rw [Der.sequence]
  simp only [List.flatten_cons, List.flatten_nil, List.append_nil]
  omega

/-- The members of the content that binds a digest. -/
theorem denotes_bind (d : Digest) :
    ∃ e data digest, Denotes rules (bind d) e ∧ content? (bind d) = some e.content ∧
      e.sequence? rules = some [data, digest] ∧
      (∃ o v, data.sequence? rules = some [o, v] ∧ readOid? o = some imageDataOid ∧
        keep? v = some obsoleteDescription) ∧
      ∃ a q, digest.sequence? rules = some [a, made 0x04 d.octets] ∧
        a.sequence? rules = some [q, made 0x05 []] ∧ readOid? q = some d.algorithm.oid := by
  have short : (bind d).length < rules.lengthLimit := length_bind_lt d
  have dataShort : (Der.sequence [identifier imageDataOid, obsoleteDescription]).length
      < rules.lengthLimit := lt_trans (length_lt_sequence (by simp)) short
  have digestShort : (Der.sequence [algorithmWithNull d.algorithm.oid, octetString d.octets]).length
      < rules.lengthLimit := lt_trans (length_lt_sequence (by simp)) short
  have valueShort : (octetString d.octets).length < rules.lengthLimit :=
    lt_trans (length_lt_sequence (by simp)) digestShort
  obtain ⟨o, typeHere, type⟩ := @readOid?_identifier rules imageDataOid (by decide)
    (lt_trans (length_lt_sequence (by simp)) dataShort)
  have kept : IsKept rules obsoleteDescription :=
    isKept_element (by decide) (by simp [isEndOfContents, isUniversal, made])
      (lt_trans (@length_lt_sequence obsoleteDescription _ (by simp)) dataShort)
  obtain ⟨v, valueHere, other⟩ := kept
  obtain ⟨a, q, algorithmHere, algorithmMembers, algorithm⟩ :=
    denotes_algorithmWithNull (writable_oid d.algorithm)
      (lt_trans (length_lt_sequence (by simp)) digestShort)
  have octets : Denotes rules (octetString d.octets) (made 0x04 d.octets) :=
    denotes_made (by decide) valueShort
  obtain ⟨dataHere, dataMembers⟩ :=
    denotes_sequence (length_content_lt dataShort) (.cons typeHere (.cons valueHere .nil))
  obtain ⟨digestHere, digestMembers⟩ :=
    denotes_sequence (length_content_lt digestShort) (.cons algorithmHere (.cons octets .nil))
  obtain ⟨here, members⟩ :=
    denotes_sequence (length_content_lt short) (.cons dataHere (.cons digestHere .nil))
  have stripped := @content?_element 0x30 _
    (lt_of_lt_of_le (length_content_lt short) rules.lengthLimit_le)
  exact ⟨_, _, _, here, stripped, members,
    ⟨o, v, dataMembers, type, keep?_of_denotes valueHere other⟩, a, q, digestMembers,
    algorithmMembers, algorithm⟩

/-- A bound digest reads back, whatever follows it. -/
theorem read?_bind (d : Digest) (rest : Bytes) :
    BoundDigest.read? (bind d ++ rest) = some ⟨d.algorithm.oid, d.octets⟩ := by
  obtain ⟨e, data, digest, here, -, members, ⟨o, v, dataMembers, type, kept⟩, a, q, digestMembers,
    algorithmMembers, algorithm⟩ := @denotes_bind .basic d
  have read := readAlgorithm?_of_members (.inr algorithmMembers) algorithm
  have found : Tlv.read? .basic (bind d ++ rest) = some (e, rest) := here rest
  simp [BoundDigest.read?, found, members, dataMembers, type, kept, digestMembers, read,
    primitive?_octetString]

end Signature

end ImageSigning
