import ImageSigning.Proofs.Der.SetOf
import ImageSigning.Proofs.Signature.RoundTrip

/-!
# Writing again what was read

Reading a signature that was made may give it another signer, with the same serial number and issuer,
and gives its certificates in another order. Neither shows in the octets: of the signer's certificate
they hold the name and the certificate as a member of the set, and certificates are elements, so that
the set has one order. Written again, the signature is the same octet by octet.

* **`encode_readWith`** — the octets do not tell which certificate was taken for the signer's.
* **`written_of_decode_made`** — a signature that was made is read and written again without a change,
  exactly if it is not obscured.
-/

namespace ImageSigning.Signature

open Der Tlv

/-- The octets of a certificate that was read are a single element. -/
theorem isSingle_of_isRead {c : Certificate} (h : c.IsRead) : IsSingle c.der := by
  obtain ⟨e, denotes, -⟩ := h.denotes
  exact isSingle_of_denotes denotes

/-- Certificates that were read are written in one order, however they are given. -/
theorem ordered_der_eq_of_perm {cs ds : List Certificate} (read : ∀ c ∈ cs, c.IsRead)
    (h : cs.Perm ds) : ordered (cs.map (·.der)) = ordered (ds.map (·.der)) := by
  apply ordered_eq_of_perm _ (h.map _)
  intro b m
  obtain ⟨c, member, rfl⟩ := List.mem_map.1 m
  exact isSingle_of_isRead (read c member)

section
variable {s : Signature} {c : Certificate}

/-- The octets do not tell which certificate with the signer's name was taken for the signer's. -/
theorem encode_readWith (read : ∀ c ∈ s.certificates, c.IsRead) (member : c ∈ s.inSetOrder)
    (serial : c.serial = s.signer.serial) (issuer : c.issuer.whole = s.signer.issuer.whole) :
    (s.readWith c).encode = s.encode := by
  have perm := certificates_readWith member
  apply AreWrittenAlike.encode_eq
  exact {
    digest := rfl
    value := rfl
    algorithm := rfl
    content := rfl
    contentType := rfl
    serial := serial
    issuer := issuer
    attributes := ordered_ordered s.attributes
    certificates := (ordered_der_eq_of_perm read perm.symm).symm }

/-- A complete signature that was read back is written as it was. -/
theorem IsComplete.encode_of_decode {i : Identity} {d : Digest} {t : Signature} {padding : Bytes}
    (h : IsComplete i d s) (read : i.certificate.IsRead)
    (decoded : decode (s.der ++ padding) = .ok t) :
    t.encode = s.der ∧ IsReadable t.signer.issuer := by
  obtain ⟨c, first, readable, rfl⟩ := (h.decode_eq_ok_iff read padding).1 decoded
  obtain ⟨-, -, -, ⟨serial, name⟩, -⟩ := id first
  have issuer : c.issuer.whole = s.signer.issuer.whole :=
    name.resolve_right fun unreadable => unreadable readable
  refine ⟨?_, readable⟩
  rw [encode_readWith (h.isRead read) first.mem serial issuer, h.der]

/-- What was read keeps the octets. -/
theorem IsComplete.der_of_decode {i : Identity} {d : Digest} {t : Signature} {padding : Bytes}
    (h : IsComplete i d s) (read : i.certificate.IsRead)
    (decoded : decode (s.der ++ padding) = .ok t) : t.der = s.der := by
  obtain ⟨c, -, -, rfl⟩ := (h.decode_eq_ok_iff read padding).1 decoded
  exact h.der.symm

/-- A complete signature is not obscured if the issuers of the added certificates with the signer's
serial number can be read. -/
theorem IsComplete.not_isObscured_of_serial {i : Identity} {d : Digest} (h : IsComplete i d s)
    (readable : ∀ c ∈ s.others, c.serial = s.signer.serial → IsReadable c.issuer) :
    ¬ s.IsObscured := by
  rintro ⟨c, first, unreadable⟩
  obtain ⟨-, -, -, ⟨serial, -⟩, -⟩ := id first
  rcases List.mem_cons.1 ((orderedOn_perm _ _).mem_iff.1 first.mem) with rfl | other
  · exact unreadable h.issuer
  · exact unreadable (readable c other serial)

/-- A complete signature is not obscured if the issuers of all added certificates can be read. -/
theorem IsComplete.not_isObscured {i : Identity} {d : Digest} (h : IsComplete i d s)
    (readable : ∀ c ∈ s.others, IsReadable c.issuer) : ¬ s.IsObscured :=
  h.not_isObscured_of_serial fun c m _ => readable c m

/-- **Writing again.** A signature that was made is read back from its octets, with any padding,
exactly if it is not obscured, and so whenever the issuers of all added certificates can be read.
Whatever is then taken for the signer's certificate, writing the parts that were read, without the
octets that were kept, succeeds and gives the same octets. -/
theorem written_of_decode_made {i : Identity} {d : Digest} (read : i.certificate.IsRead)
    (isMade : Made i d s) (padding : Bytes) :
    ((∃ t, decode (s.der ++ padding) = .ok t) ↔ ¬ s.IsObscured) ∧
    ((∀ c ∈ s.others, IsReadable c.issuer) → ¬ s.IsObscured) ∧
    ∀ t, decode (s.der ++ padding) = .ok t → ∀ w, ∃ u,
      ({ t with der := [] } : Signature).written w = (.ok u, w) ∧ u.der = s.der ∧
        u.sameParts t = true := by
  have complete := isMade.isComplete
  refine ⟨complete.exists_decode_iff read padding, complete.not_isObscured, ?_⟩
  intro t decoded w
  obtain ⟨octets, readable⟩ := complete.encode_of_decode read decoded
  have cleared : encode { t with der := [] } = s.der := octets
  refine ⟨{ t with der := s.der }, ?_, rfl, ?_⟩
  · apply written_eq_ok.2
    refine ⟨readable, ?_, ?_, rfl⟩
    · rw [cleared, complete.der]
      exact complete.short
    · rw [cleared]
  · simp [sameParts]

end

/-- The signature of the short key over the empty message is read from its octets with three zeros
behind them and written again as it was. -/
theorem written_of_decode_made_shortIdentity : ∃ c s t u, c.IsRead ∧
    Made (shortIdentity c) (.compute .sha256 []) s ∧ decode (s.der ++ Bytes.zeros 3) = .ok t ∧
    ({ t with der := [] } : Signature).written noSurroundings = (.ok u, noSurroundings) ∧
    u.der = s.der := by
  obtain ⟨c, s, w', read, built, -⟩ := exists_build_shortIdentity
  have others := (isComplete_of_build built).2
  obtain ⟨succeeds, clear, again⟩ := written_of_decode_made read (.built built) (Bytes.zeros 3)
  obtain ⟨t, decoded⟩ := succeeds.2 (clear (by simp [others]))
  obtain ⟨u, writes, same, -⟩ := again t decoded noSurroundings
  exact ⟨c, s, t, u, read, .built built, decoded, writes, same⟩

end ImageSigning.Signature
