import ImageSigning.Proofs.Run
import ImageSigning.Proofs.Signature.Content
import ImageSigning.Signature.Building

/-!
# What a content binds

The content for a digest is read back as that digest, so that it passes the check for exactly one digest:
an algorithm is known by its identifier, and a digest by its algorithm and its octets. No content is the
beginning of another one, and building a signature never ends with its own check. The header takes one
octet more where the digest is too long for a short length, which changes none of this.

* **`check_bind`** — a bound digest compared with another one.
* **`bind_append_inj`** — octets begin with the content for at most one digest.
* **`build_eq`** — building without the check.
* **`binding_exact`** — the check is exact.
-/

namespace ImageSigning

open Der

/-- Digest algorithms with the same identifier are the same. -/
theorem DigestAlgorithm.oid_injective : Function.Injective oid := by
  intro a b same
  have found := ofOid?_oid a
  rw [same, ofOid?_oid] at found
  exact (Option.some.inj found).symm

/-- A digest is its algorithm and its octets. -/
theorem Digest.eq_iff {d₁ d₂ : Digest} :
    d₁ = d₂ ↔ d₁.algorithm.oid = d₂.algorithm.oid ∧ d₁.octets = d₂.octets := by
  constructor
  · rintro rfl
    exact ⟨rfl, rfl⟩
  · rintro ⟨oid, octets⟩
    obtain ⟨a, b, length⟩ := d₁
    obtain rfl : a = _ := DigestAlgorithm.oid_injective oid
    obtain rfl : b = _ := octets
    rfl

namespace Signature

variable (d d₁ d₂ : Digest)

/-! ## The check -/

/-- What follows the content for a digest is not looked at. -/
theorem check_append (rest : Bytes) : check (bind d₁ ++ rest) d₂ = check (bind d₁) d₂ := by
  have alone := read?_bind d₁ []
  rw [List.append_nil] at alone
  unfold check
  rw [read?_bind, alone]

/-- The content for a digest compared with a digest. -/
theorem check_bind : check (bind d₁) d₂ = if d₁ = d₂ then .agrees else .differs := by
  rw [← check_append d₁ d₂ []]
  unfold check
  rw [read?_bind]
  exact if_congr Digest.eq_iff.symm rfl rfl

/-- What binds a digest is accepted for that digest and for no other. -/
theorem requireBinding_bind : requireBinding (bind d₁) d₂ =
    if d₁ = d₂ then .ok () else .error (.failure (.envelope .digestDiffers)) := by
  unfold requireBinding
  rw [check_bind]
  by_cases same : d₁ = d₂
  · rw [if_pos same, if_pos same]
  · rw [if_neg same, if_neg same]

/-- What binds a digest is accepted for it. -/
theorem requireBinding_self : requireBinding (bind d) d = .ok () := by
  rw [requireBinding_bind, if_pos rfl]

/-! ## The content as octets -/

variable {d d₁ d₂}

/-- Octets begin with the content for at most one digest, and then what follows is determined. -/
theorem bind_append_inj {r₁ r₂ : Bytes} (h : bind d₁ ++ r₁ = bind d₂ ++ r₂) : d₁ = d₂ ∧ r₁ = r₂ := by
  have same : d₁ = d₂ := by
    have read := read?_bind d₁ r₁
    rw [h, read?_bind, Option.some.injEq, BoundDigest.mk.injEq] at read
    exact Digest.eq_iff.2 ⟨read.1.symm, read.2.symm⟩
  subst same
  exact ⟨rfl, List.append_cancel_left h⟩

/-- Digests that are bound alike are the same. -/
theorem bind_injective : Function.Injective bind := by
  intro d₁ d₂ same
  exact (bind_append_inj (congrArg (· ++ []) same)).1

/-- The octets behind the header. -/
def boundParts (d : Digest) : Bytes :=
  Der.sequence [identifier imageDataOid, obsoleteDescription] ++
    Der.sequence [algorithmWithNull d.algorithm.oid, octetString d.octets]

/-- What binds a digest is a sequence of its parts. -/
theorem bind_eq (d : Digest) : bind d = element 0x30 (boundParts d) := by
  simp [bind, boundParts, Der.sequence]

/-- A short length takes one octet. -/
theorem length_lengthOctets_of_lt {n : Nat} (h : n < 128) : (lengthOctets n).length = 1 := by
  simp [lengthOctets, h]

/-- Besides the digest's octets the parts have seventy-two. -/
theorem length_boundParts (d : Digest) : (boundParts d).length = 72 + d.algorithm.size := by
  have data : (Der.sequence [identifier imageDataOid, obsoleteDescription]).length = 53 := by decide
  have algorithm : (algorithmWithNull d.algorithm.oid).length = 15 := by
    cases d.algorithm <;> decide
  have small : d.algorithm.size ≤ 64 := by
    cases d.algorithm <;> decide
  have octets : (octetString d.octets).length = 2 + d.algorithm.size := by
    unfold octetString
    rw [length_element, d.length_octets, length_lengthOctets_of_lt (by omega)]
  have digest : (Der.sequence [algorithmWithNull d.algorithm.oid, octetString d.octets]).length
      = 19 + d.algorithm.size := by
    unfold Der.sequence
    rw [length_element, length_lengthOctets_of_lt] <;> simp [algorithm, octets] <;> omega
  rw [boundParts, List.length_append, data, digest]
  omega

/-- The length of the content is in the short form unless the digest has 64 octets. -/
theorem length_lengthOctets_boundParts (d : Digest) :
    (lengthOctets (boundParts d).length).length = if d.algorithm = .sha512 then 2 else 1 := by
  rw [length_boundParts]
  cases d.algorithm <;> decide

/-- The content of what binds a digest is its parts. -/
theorem content?_bind (d : Digest) : content? (bind d) = some (boundParts d) := by
  rw [bind_eq]
  refine content?_element ?_
  have small : d.algorithm.size ≤ 64 := by
    cases d.algorithm <;> decide
  have few : 136 < 256 ^ 126 := by decide
  rw [length_boundParts]
  omega

/-! ## Building -/

/-- Building is what it is without the check. -/
theorem build_eq (i : Identity) (d : Digest) : build i d = (do
    let algorithm ← Run.lift (fun p => .failure (.envelope p)) (algorithmFor i.certificate d.algorithm)
    signContent i d algorithm (bind d)) := by
  unfold build
  simp only [requireBinding_self]
  rfl

/-- The check is exact. The content for a digest passes for that digest and is refused for every other one
of any algorithm, so that different digests have different contents. What follows a content makes no
difference, and no content is the beginning of another. That is so whether the length in its header is in
the short form or, for a digest of 64 octets, in the long one. In building a signature the check lets every
digest pass. -/
theorem binding_exact :
    (∀ d₁ d₂, requireBinding (bind d₁) d₂ =
      if d₁ = d₂ then .ok () else .error (.failure (.envelope .digestDiffers))) ∧
    Function.Injective bind ∧
    (∀ d₁ d₂ r₁ r₂, requireBinding (bind d₁ ++ r₁) d₂ = requireBinding (bind d₁) d₂ ∧
      (bind d₁ ++ r₁ = bind d₂ ++ r₂ → d₁ = d₂ ∧ r₁ = r₂)) ∧
    (∀ d, ∃ content, bind d = 0x30 :: (lengthOctets content.length ++ content) ∧
      content? (bind d) = some content ∧ content.length = 72 + d.algorithm.size ∧
      (lengthOctets content.length).length = if d.algorithm = .sha512 then 2 else 1) ∧
    ∀ i d, requireBinding (bind d) d = .ok () ∧ build i d = (do
      let algorithm ←
        Run.lift (fun p => .failure (.envelope p)) (algorithmFor i.certificate d.algorithm)
      signContent i d algorithm (bind d)) := by
  refine ⟨requireBinding_bind, bind_injective, fun d₁ d₂ r₁ r₂ => ⟨?_, bind_append_inj⟩, fun d => ?_,
    fun i d => ⟨requireBinding_self d, build_eq i d⟩⟩
  · unfold requireBinding
    rw [check_append]
  · exact ⟨boundParts d, bind_eq d, content?_bind d, length_boundParts d,
      length_lengthOctets_boundParts d⟩

end Signature

end ImageSigning
