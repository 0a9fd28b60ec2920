import ImageSigning.Proofs.Signature.Extent
import ImageSigning.Proofs.Signature.RoundTrip

/-!
# What ends the reading of a signature

Octets that hold something else than a signature are told so, and whoever reads them can go on. There
are two ways in which the reading ends that say nothing of the kind. A certificate in the signature is of
a version that does not exist, and no earlier one is malformed; or the certificate that decides the
search for the signer has an issuer with a misplaced bit string. Both can only be met once the structure
of the octets is known to be that of signed data.

* **`HasParts`** — the octets are signed data that bind a digest.
* **`HasUnknownVersion`**, **`HasMisplacedIssuer`** — the two ways.
* **`exists_decode_unforeign_iff`** — there is no other.
-/

namespace ImageSigning.Signature

open Der Tlv

/-- The octets are those of a typed content with signed data, which bind a digest. -/
def HasParts (b : Bytes) (data : SignedData) : Prop :=
  ∃ outer der rest octets content bound algorithm digest,
    ContentInfo.read? b = some (outer, der, rest) ∧ outer.contentType = signedDataOid ∧
    outer.content = some octets ∧ SignedData.read? octets = some data ∧
    data.contentInfo.content = some content ∧ BoundDigest.read? content = some bound ∧
    DigestAlgorithm.ofOid? bound.algorithm = some algorithm ∧
    Digest.ofOctets? algorithm bound.octets = .ok digest

/-- A certificate is of a version that does not exist, and those before it can be taken. -/
def HasUnknownVersion (b : Bytes) : Prop :=
  ∃ data before der after, HasParts b data ∧ data.certificates = before ++ der :: after ∧
    (∀ x ∈ before, ∃ c, Certificate.ofDer x = .ok c) ∧
    Certificate.ofDer der = .error .unknownVersion

/-- All certificates can be taken, and the one that decides the search for the signer has an issuer with
a misplaced bit string. -/
def HasMisplacedIssuer (b : Bytes) : Prop :=
  ∃ data certificates info c, HasParts b data ∧ readCertificates data.certificates = .ok certificates ∧
    data.signers.head? = some info ∧ FirstIn (Decides info.serial info.issuer) certificates c ∧
    c.issuer.read = .error .misplacedBits

section
variable {b : Bytes} {data : SignedData} {p : SignatureProblem}

/-- A part that is required and lacking is what a signature is refused for. -/
theorem require_eq_error {α : Type} {what : String} {o : Option α} :
    require what o = .error p ↔ o = none ∧ p = .malformed what := by
  cases o <;> simp [require, eq_comm]

/-- What is left to do where the structure is known. -/
theorem HasParts.decode_eq_error (h : HasParts b data) : decode b = .error p ↔
    readCertificates data.certificates = .error p ∨
    ∃ certificates, readCertificates data.certificates = .ok certificates ∧
      ((data.signers.head? = none ∧ p = .malformed "no signer") ∨
        ∃ info, data.signers.head? = some info ∧
          findSigner info.serial info.issuer certificates = .error p) := by
  obtain ⟨outer, der, rest, octets, content, bound, algorithm, digest, read, type, inner, signed,
    contentGiven, boundGiven, algorithmKnown, digestSized⟩ := h
  unfold decode
  simp only [read, type, inner, signed, contentGiven, boundGiven, algorithmKnown, digestSized, require,
    Outcome.ok_bind, ne_eq, not_true_eq_false, if_false, Option.bind_some, pure_bind,
    Except.mapError]
  rw [Outcome.bind_eq_error]
  refine or_congr Iff.rfl (exists_congr fun certificates => and_congr Iff.rfl ?_)
  rcases data.signers.head? with _ | info
  · simp [Outcome.error_bind, eq_comm]
  · simp only [Outcome.ok_bind, Outcome.bind_eq_error, pure, Except.pure]
    simp

/-- A problem that does not mean something else than a signature is met behind the structure only. -/
theorem exists_hasParts (h : decode b = .error p) (stop : p.isForeign = false) :
    ∃ data, HasParts b data := by
  have foreign {q : SignatureProblem} {x : Prop} (other : q.isForeign = true) (here : q = p) : x := by
    rw [here, stop] at other
    cases other
  have part {α : Type} {what : String} {o : Option α} {x : Prop} (lacking : require what o = .error p) :
      x := foreign rfl (require_eq_error.1 lacking).2.symm
  unfold decode at h
  rcases Outcome.bind_eq_error.1 h with lacking | ⟨⟨outer, der, rest⟩, read, h⟩
  · exact part lacking
  dsimp only at h
  split at h
  · exact foreign rfl (Except.error.inj h)
  rename_i type
  rcases Outcome.bind_eq_error.1 h with lacking | ⟨data, signed, h⟩
  · exact part lacking
  rcases Outcome.bind_eq_error.1 h with lacking | ⟨content, contentGiven, h⟩
  · exact part lacking
  rcases Outcome.bind_eq_error.1 h with lacking | ⟨bound, boundGiven, h⟩
  · exact part lacking
  split at h
  · rename_i algorithm algorithmKnown
    rw [pure_bind] at h
    rcases Outcome.bind_eq_error.1 h with wrong | ⟨digest, digestSized, -⟩
    · obtain ⟨q, -, here⟩ := Outcome.mapError_eq_error.1 wrong
      exact foreign rfl here
    · obtain ⟨octets, inner, signed⟩ := Option.bind_eq_some_iff.1 (require_eq_ok.1 signed)
      exact ⟨data, outer, der, rest, octets, content, bound, algorithm, digest,
        require_eq_ok.1 read, not_not.1 type, inner, signed, require_eq_ok.1 contentGiven,
        require_eq_ok.1 boundGiven, algorithmKnown, Outcome.mapError_eq_ok.1 digestSized⟩
  · exact foreign rfl (Except.error.inj h)

/-! ## The certificates and the signer -/

/-- Certificates stop the reading only at one of a version that does not exist, behind others that are
read. -/
theorem readCertificates_eq_error {encodings : List Bytes} (stop : p.isForeign = false) :
    readCertificates encodings = .error p ↔ p = .certificateVersion ∧
      ∃ before der after, encodings = before ++ der :: after ∧
        (∀ x ∈ before, ∃ c, Certificate.ofDer x = .ok c) ∧
        Certificate.ofDer der = .error .unknownVersion := by
  unfold readCertificates
  rw [Outcome.mapM_eq_error_iff]
  simp only [Outcome.mapError_eq_ok, Outcome.mapError_eq_error]
  constructor
  · rintro ⟨before, der, after, split, earlier, q, here, rfl⟩
    rcases q with _ | _
    · cases stop
    · exact ⟨rfl, before, der, after, split, earlier, here⟩
  · rintro ⟨rfl, before, der, after, split, earlier, here⟩
    exact ⟨before, der, after, split, earlier, _, here, rfl⟩

/-- The search ends with a problem of a name exactly if the deciding certificate's issuer has it. -/
theorem findSigner_eq_error {serial : Int} {issuer : Bytes} {cs : List Certificate}
    (stop : p.isForeign = false) : findSigner serial issuer cs = .error p ↔
      p = .issuer .misplacedBits ∧
        ∃ c, FirstIn (Decides serial issuer) cs c ∧ c.issuer.read = .error .misplacedBits := by
  induction cs with
  | nil =>
    constructor
    · intro h
      obtain rfl := Except.error.inj h
      cases stop
    · rintro ⟨-, c, first, -⟩
      exact (not_firstIn_nil first).elim
  | cons d cs ih =>
    have later (passes : ¬ Decides serial issuer d) :
        (∃ c, FirstIn (Decides serial issuer) (d :: cs) c ∧ c.issuer.read = .error .misplacedBits) ↔
          ∃ c, FirstIn (Decides serial issuer) cs c ∧ c.issuer.read = .error .misplacedBits := by
      simp [firstIn_cons_iff, passes]
    have now (decides : Decides serial issuer d) :
        (∃ c, FirstIn (Decides serial issuer) (d :: cs) c ∧ c.issuer.read = .error .misplacedBits) ↔
          d.issuer.read = .error .misplacedBits := by
      simp [firstIn_cons_iff, decides]
    rw [findSigner]
    by_cases number : d.serial = serial
    · rw [if_pos number]
      rcases read : d.issuer.read with q | groups
      · have decides : Decides serial issuer d := by
          refine ⟨number, .inr ?_⟩
          rintro ⟨groups, read'⟩
          rw [read] at read'
          cases read'
        rw [now decides, read]
        change (Except.error (SignatureProblem.issuer q) : Except _ Certificate) = _ ↔ _
        constructor
        · intro h
          obtain rfl := Except.error.inj h
          cases q with
          | misplacedBits => exact ⟨rfl, rfl⟩
          | _ => cases stop
        · rintro ⟨rfl, h⟩
          rw [Except.error.inj h]
      · by_cases name : d.issuer.whole = issuer
        · rw [now ⟨number, .inl name⟩, read]
          simp [Except.mapError, Outcome.ok_bind, name, pure, Except.pure]
        · have passes : ¬ Decides serial issuer d := by
            rintro ⟨-, same | unreadable⟩
            · exact name same
            · exact unreadable ⟨groups, read⟩
          rw [later passes, ← ih]
          simp [Except.mapError, Outcome.ok_bind, name]
    · -- the issuer of a certificate with another number is not looked at
      have passes : ¬ Decides serial issuer d := fun decides => number decides.1
      rw [if_neg number, later passes, ih]

/-! ## All ways -/

/-- **Reading ends otherwise than with a signature or the word that there is none** exactly if a
certificate has an unknown version or the deciding issuer has a misplaced bit string. -/
theorem exists_decode_unforeign_iff : (∃ p, decode b = .error p ∧ p.isForeign = false) ↔
    HasUnknownVersion b ∨ HasMisplacedIssuer b := by
  constructor
  · rintro ⟨p, h, stop⟩
    obtain ⟨data, parts⟩ := exists_hasParts h stop
    rcases parts.decode_eq_error.1 h with taken | ⟨certificates, taken, ⟨-, rfl⟩ | ⟨info, head, search⟩⟩
    · obtain ⟨-, before, der, after, split, earlier, here⟩ := (readCertificates_eq_error stop).1 taken
      exact .inl ⟨data, before, der, after, parts, split, earlier, here⟩
    · cases stop
    · obtain ⟨-, c, first, name⟩ := (findSigner_eq_error stop).1 search
      exact .inr ⟨data, certificates, info, c, parts, taken, head, first, name⟩
  · rintro (⟨data, before, der, after, parts, split, earlier, here⟩ |
      ⟨data, certificates, info, c, parts, taken, head, first, name⟩)
    · refine ⟨.certificateVersion, parts.decode_eq_error.2 (.inl ?_), rfl⟩
      exact (readCertificates_eq_error rfl).2 ⟨rfl, before, der, after, split, earlier, here⟩
    · refine ⟨.issuer .misplacedBits, parts.decode_eq_error.2 (.inr ⟨certificates, taken, .inr ?_⟩), rfl⟩
      exact ⟨info, head, (findSigner_eq_error rfl).2 ⟨rfl, c, first, name⟩⟩

end

end ImageSigning.Signature
