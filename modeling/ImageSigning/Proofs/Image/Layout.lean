import ImageSigning.Proofs.Image.Packing
import ImageSigning.Proofs.Image.Reload

/-!
# The layout of a written image

Writing puts the certificate table behind the octets of the image and fills in two fields. Where an image
can be digested, both fields lie inside it and the checksum comes first, so filling one in leaves the
other alone. Three kinds of numbers have to fit four octets: the place and the size of the table, the size
in the header of each of its entries, and the checksum. The first two are bounded by the size of the
file, and the checksum is less than the size and 2^17 together.

* **`exists_digest_iff`** — an image can be digested exactly if its two fields lie inside it, in order.
* **`exists_toBytes_iff`** — it is written exactly if its headers can be read with the table behind it;
  nothing else goes wrong.
* **`layout_written`** — what the written file looks like.
-/

namespace ImageSigning

open Bytes CertificateTable

/-- The size in the header of an entry is that of the entry, if it fits. -/
theorem CertificateTable.numberIn_entry {signature : Bytes}
    (fits : (entry signature).length < 2 ^ 32) :
    numberIn (entry signature) 0 4 = (entry signature).length := by
  rw [length_entry] at fits ⊢
  rw [entry_eq, entryHeader, List.append_assoc, List.append_assoc]
  exact @numberIn_ofNatLE [] _ _ 0 4 _ rfl rfl fits

namespace Image

section
variable {image : Image} {a : DigestAlgorithm} {w : World}

/-- The regions of a digest are known exactly if both fields lie inside the image, the checksum first. -/
theorem exists_regions_iff : (∃ regions, image.regions = .ok regions) ↔
    ∃ c e : Nat, image.checksum = c ∧ image.entry = e ∧ c + 4 ≤ e ∧ e + 8 ≤ image.data.length := by
  rw [← fieldsInside_iff]
  constructor
  · rintro ⟨regions, known⟩
    exact (signableRegions_eq_ok.1 known).1
  · intro inside
    exact ⟨_, signableRegions_eq_ok.2 ⟨inside, rfl⟩⟩

/-- An image has a digest exactly if its two fields stand inside, the checksum first. -/
theorem exists_digest_iff : (∃ d w', image.digest a w = (.ok d, w')) ↔
    ∃ c e : Nat, image.checksum = c ∧ image.entry = e ∧ c + 4 ≤ e ∧ e + 8 ≤ image.data.length := by
  rw [← fieldsInside_iff]
  constructor
  · rintro ⟨d, w', ran⟩
    obtain ⟨_, _, lifted, -⟩ := Run.bind_eq_ok.1 ran
    exact (imageDigest_eq_ok.1 (Run.lift_eq_ok.1 lifted).1).1
  · intro inside
    have computed := (@imageDigest_eq_ok _ _ _ a _).2 ⟨inside, rfl⟩
    exact ⟨_, _, (Run.bind_of_ok (Run.lift_eq_ok.2 ⟨computed, rfl⟩)).trans rfl⟩

variable {c e : Nat} {out : Bytes}

/-- An image whose fields lie inside it and whose size is not too large is written exactly if its headers
can be read with the table behind it, and if not, then for that reason. -/
theorem exists_toBytes_iff (checksum : image.checksum = c) (entry : image.entry = e)
    (apart : c + 4 ≤ e) (inside : e + 8 ≤ image.data.length)
    (small : image.data.length + image.certificateTable.length < 2 ^ 32 - 2 ^ 17) :
    ((∃ out, image.toBytes = .ok out) ↔ ∃ h, Headers.read (image.unsealed e) = .ok h) ∧
      ∀ d, image.toBytes = .error d → d = .notImage := by
  have length := length_unsealed inside
  have place : ∀ n ∈ image.tablePlace, n < 2 ^ 32 := fun n m => by
    have limit := small_tablePlace (by decide) small n m
    omega
  refine ⟨⟨?_, ?_⟩, ?_⟩
  · rintro ⟨out, written⟩
    obtain ⟨-, -, -, sum, summed, -⟩ := (toBytes_eq_ok checksum entry).1 written
    obtain ⟨h, accepted, -⟩ := Outcome.map_eq_ok.1 summed
    exact ⟨h, accepted⟩
  · rintro ⟨h, accepted⟩
    exact exists_toBytes checksum entry apart inside small accepted
  · intro d failed
    rw [toBytes_eq_seal checksum entry inside (by omega) place,
      seal_eq_error apart inside (by omega)] at failed
    rcases failed with ⟨⟨sum, summed, large⟩, -⟩ | ⟨-, reason⟩
    · have limit := Headers.checksum_lt summed
      omega
    · exact reason

/-- **The layout of a written image.** An image that can be digested, whose size is a multiple of eight
and, with its table, not too large, is written if its headers can be read with the table behind it; no
number fails to fit. The file is then the image outside the two fields, which lie inside it and do not
overlap, and behind it, at a multiple of eight, the table, whose size is one too. The directory says
where the table is, or nothing if there is no signature, and each entry says its own size. -/
theorem layout_written {d : Digest} {w' : World} (digested : image.digest a w = (.ok d, w'))
    (aligned : 8 ∣ image.data.length)
    (small : image.data.length + image.certificateTable.length < 2 ^ 32 - 2 ^ 17) :
    ∃ c e : Nat, image.checksum = c ∧ image.entry = e ∧ c + 4 ≤ e ∧ e + 8 ≤ image.data.length ∧
      (∀ defect, image.toBytes = .error defect → defect = .notImage) ∧
      ((∃ out, image.toBytes = .ok out) ↔ ∃ h, Headers.read (image.unsealed e) = .ok h) ∧
      ∀ out, image.toBytes = .ok out →
        out.length = image.data.length + image.certificateTable.length ∧
        (∀ n < image.data.length, n < c ∨ c + 4 ≤ n → n < e ∨ e + 8 ≤ n →
          out[n]? = image.data[n]?) ∧
        ((image.signatures.items = [] ∧ numberIn out e 4 = 0 ∧ numberIn out (e + 4) 4 = 0) ∨
          (image.signatures.items ≠ [] ∧ numberIn out e 4 = image.data.length ∧
            numberIn out (e + 4) 4 = image.certificateTable.length)) ∧
        out.drop image.data.length = image.certificateTable ∧
        8 ∣ image.certificateTable.length ∧
        (∀ x ∈ image.signatures.items, numberIn (CertificateTable.entry x.der) 0 4
          = alignUp (headerSize + x.der.length)) ∧
        read (out.drop image.data.length)
          = ⟨.ok (image.signatures.items.map fun x => padded x.der), []⟩ := by
  obtain ⟨c, e, checksum, entry, apart, inside⟩ := exists_digest_iff.1 ⟨d, w', digested⟩
  obtain ⟨success, reason⟩ := exists_toBytes_iff checksum entry apart inside small
  refine ⟨c, e, checksum, entry, apart, inside, reason, success, fun out written => ?_⟩
  have shape := isWrittenAs checksum entry apart written
  have short : (CertificateTable.write (image.signatures.items.map (·.der))).length < 2 ^ 32 := by
    change image.certificateTable.length < _
    omega
  have none_iff : image.certificateTable = [] ↔ image.signatures.items = [] := by
    rw [certificateTable, write_eq_nil_iff, List.map_eq_nil_iff]
  refine ⟨shape.length, shape.outside, ?_, shape.table, eight_dvd_length_write _, fun x m => ?_, ?_⟩
  · rw [ne_eq, ← none_iff]
    exact shape.place_cases
  · have here := length_entry_le (List.mem_map_of_mem (f := fun y : StoredSignature => y.der) m)
    rw [numberIn_entry (by omega), length_entry]
  · rw [shape.table, certificateTable, read_write short, List.map_map]
    rfl

end

/-- The short image, signed by the short key, is written with one entry behind it. -/
theorem layout_written_shortImage : ∃ image s out,
    ofFile "i" shortImage = .ok image ∧
    (∃ d w', (image.append (.decoded s)).digest .sha256 Signature.noSurroundings = (.ok d, w')) ∧
    (image.append (.decoded s)).toBytes = .ok out ∧
    CertificateTable.read (out.drop image.data.length) = ⟨.ok [padded s.der], []⟩ := by
  obtain ⟨image, c, s, w', regions, out, found, -, -, valid, written, -, unsigned, small⟩ :=
    exists_of_stands stands_shortImage
  have items : (image.append (.decoded s)).signatures.items = [.decoded s] := by
    rw [append, Store.append, unsigned]
    rfl
  obtain ⟨c', e, laid⟩ := isLaidOut_of_ofFile found
  obtain ⟨d, w₁, digested⟩ := (@exists_digest_iff (image.append (.decoded s)) .sha256
    Signature.noSurroundings).2 (exists_regions_iff.1 ⟨regions, valid⟩)
  obtain ⟨c₁, e₁, -, -, -, -, -, -, shape⟩ := layout_written digested laid.aligned small
  have read := (shape out written).2.2.2.2.2.2
  rw [items] at read
  exact ⟨image, s, out, found, ⟨d, w₁, digested⟩, written, read⟩

end Image

end ImageSigning
