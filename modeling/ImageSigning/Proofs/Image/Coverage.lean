import ImageSigning.Proofs.Image.Layout
import ImageSigning.Proofs.Signing.Steps

/-!
# What a digest covers

A digest covers an image except for its two fields: whatever stands in them the digest is the same, and
whatever is changed elsewhere something else is hashed.

* **`digest_covers`** — when an image can be digested, what is hashed, and when the same is hashed of two
  images.
-/

namespace ImageSigning.Image

section
variable {image : Image} {a : DigestAlgorithm} {w : World}

/-- An image whose fields are not inside it is refused, and nothing is told. -/
theorem digest_eq_error (lacks : ¬ FieldsInside image.data.length image.checksum image.entry) :
    ∃ p, image.digest a w = (.error (.failure (.layout (some image.path) p)), w) := by
  rcases known : signedContent image.data image.checksum image.entry with p | content
  · refine ⟨p, Run.bind_of_error ?_⟩
    rw [Run.lift_eq, imageDigest, known]
    rfl
  · exact (lacks (signedContent_eq_ok.1 known).1).elim

end

/-- **What a digest covers.** An image is digested exactly if its two fields lie inside it, the checksum
first, and refused over its layout otherwise. The regions that are hashed come in order, do not overlap
and do not leave the image, and a position is in one of them exactly if it is in neither field. So what
is hashed is the image less the twelve octets of the fields. Of two images with the same fields and as
many octets the same is hashed, whatever the algorithm, exactly if they agree at every position outside
the fields. -/
theorem digest_covers (image : Image) (a : DigestAlgorithm) (w : World) :
    ((∃ d w', image.digest a w = (.ok d, w')) ↔
      FieldsInside image.data.length image.checksum image.entry) ∧
    (¬ FieldsInside image.data.length image.checksum image.entry →
      ∃ p, image.digest a w = (.error (.failure (.layout (some image.path) p)), w)) ∧
    (∀ d w', image.digest a w = (.ok d, w') → ∃ regions content,
      image.regions = .ok regions ∧
      Covers image.data.length image.checksum image.entry regions ∧
      signedContent image.data image.checksum image.entry = .ok content ∧
      d = Digest.compute a content ∧
      content = octetsIn image.data regions ∧
      content = withoutFields image.data image.checksum image.entry ∧
      content.length + 12 = image.data.length) ∧
    ∀ other : Image, other.checksum = image.checksum → other.entry = image.entry →
      other.data.length = image.data.length →
      FieldsInside image.data.length image.checksum image.entry →
      (signedContent other.data other.checksum other.entry
          = signedContent image.data image.checksum image.entry ↔
        ∀ n, IsOutside image.checksum image.entry n → other.data[n]? = image.data[n]?) := by
  refine ⟨exists_digest_iff.trans fieldsInside_iff.symm, digest_eq_error, fun d w' ran => ?_, ?_⟩
  · obtain ⟨inside, computed⟩ := imageDigest_eq_ok.1 (digest_eq_ok ran).2
    have known := signableRegions_eq_ok.2 ⟨inside, rfl⟩
    have covers := covers_of_signableRegions known
    exact ⟨_, _, known, covers, signedContent_eq_ok.2 ⟨inside, rfl⟩, computed,
      covers.octetsIn_eq.symm, rfl, length_withoutFields inside⟩
  · intro other checksum entry length inside
    have hashed := signedContent_eq_ok.2 ⟨inside, rfl⟩
    have inside' : FieldsInside other.data.length other.checksum other.entry := by
      rwa [length, checksum, entry]
    rw [hashed, signedContent_eq_ok.2 ⟨inside', rfl⟩, Except.ok.injEq, checksum, entry]
    exact withoutFields_eq_iff length

/-- Fourteen octets whose fields stand side by side: one octet before them and one behind. -/
def narrowImage (filling : UInt8) : Image :=
  ⟨"i", 7 :: (List.replicate 12 filling ++ [9]), 1, 5, .empty⟩

/-- The two octets outside the fields are hashed, whatever is in the fields; if the directory entry stood
one octet earlier, in the checksum, nothing would be. -/
theorem digest_covers_narrowImage :
    (∃ d w', (narrowImage 0).digest .sha256 Signature.noSurroundings = (.ok d, w') ∧
      d = Digest.compute .sha256 [7, 9]) ∧
    signedContent (narrowImage 255).data 1 5 = signedContent (narrowImage 0).data 1 5 ∧
    ∃ p, Image.digest { narrowImage 0 with entry := 4 } .sha256 Signature.noSurroundings
      = (.error (.failure (.layout (some "i") p)), Signature.noSurroundings) := by
  have inside : FieldsInside (narrowImage 0).data.length 1 5 := ⟨by decide, by decide, by decide⟩
  obtain ⟨success, -, covered, same⟩ :=
    digest_covers (narrowImage 0) .sha256 Signature.noSurroundings
  obtain ⟨d, w', ran⟩ := success.2 inside
  obtain ⟨_, content, -, -, -, shown, -, octets, -⟩ := covered d w' ran
  have two : content = [7, 9] := octets.trans (by decide)
  refine ⟨⟨d, w', ran, by rw [shown, two]⟩, ?_, ?_⟩
  · refine (same (narrowImage 255) rfl rfl rfl inside).2 fun n outside => ?_
    obtain rfl | rfl | past : n = 0 ∨ n = 13 ∨ 14 ≤ n := by
      simp only [IsOutside, narrowImage] at outside
      omega
    · rfl
    · rfl
    · rw [List.getElem?_eq_none past, List.getElem?_eq_none past]
  · refine (digest_covers { narrowImage 0 with entry := 4 } .sha256 _).2.1 fun overlap => ?_
    exact absurd overlap.2.1 (by decide)

end ImageSigning.Image
