import ImageSigning.Proofs.Bundle.Composition
import ImageSigning.Proofs.FileSystem
import ImageSigning.Proofs.Signature.Made

/-!
# Certificates in either encoding

A file with a certificate as text is read as the certificate, wherever its letters are broken into lines
and whatever lines stand in front. A file with the octets of a certificate is read as the certificate
exactly if what text is told by does not occur in them. Where it does, the octets are taken for text, and
as a block is shorter than the text around it, nothing that is read from them is the certificate.

* **`Certificate.IsRead.ofFile_text`** — text is read as the certificate that it was written from.
* **`Certificate.length_lt_of_ofPem`** — what is read from text is shorter than the text.
* **`InputFile.certificate_encodings`** — files in either encoding.
-/

namespace ImageSigning

/-- The text of a block of a certificate, with letters in lines. -/
def Pem.ofLines (ending : Bytes) (lines : List Bytes) : Bytes :=
  openingLine ++ (ending ++ lines.flatMap (· ++ ending)) ++ closingLine ++ ending

/-- Looking for a run of octets finds it exactly if it is there. -/
theorem Bytes.containsRun_iff {part b : Bytes} : containsRun part b = true ↔ part <:+: b := by
  induction b with
  | nil => simp [containsRun]
  | cons x r ih => rw [containsRun, Bool.or_eq_true, List.isPrefixOf_iff_prefix, ih, List.infix_cons_iff]

namespace Certificate

/-- A certificate in text is shorter than the text. -/
theorem length_lt_of_ofPem {b : Bytes} {c : Certificate} (h : ofPem b = .ok c) :
    c.der.length < b.length := by
  unfold ofPem at h
  obtain ⟨blocks, read, h⟩ := Outcome.bind_eq_ok.1 h
  split at h
  · cases h
  · rename_i block found
    rw [ofDer_der (Outcome.mapError_eq_ok.1 h)]
    exact Pem.length_lt_of_mem_readAll (Outcome.mapError_eq_ok.1 read) _ (List.mem_of_find?_eq_some found)

/-- Octets that hold the mark of a text are read as one, and as nothing else. -/
theorem ofFile_of_marked {b : Bytes} (marked : textMark <:+: b) : ofFile b = ofPem b :=
  if_pos (Bytes.containsRun_iff.2 marked)

/-- Octets of a certificate are read as the certificate where nothing in them is taken for text. -/
theorem IsRead.ofFile_octets {c : Certificate} (h : c.IsRead) (lacks : ¬ textMark <:+: c.der) :
    ofFile c.der = .ok c := by
  rw [ofFile, if_neg (mt Bytes.containsRun_iff.1 lacks), show ofDer c.der = .ok c from h]
  rfl

/-- Text is read as the certificate that it was written from. -/
theorem IsRead.ofFile_text {c : Certificate} (h : c.IsRead) {front ending : Bytes} {lines : List Bytes}
    (introduces : Pem.IsIntroduction front) (ends : Pem.IsLineEnd ending)
    (filled : ∀ l ∈ lines, l ≠ []) (whole : lines.flatten = Base64.encode c.der) :
    ofFile (front ++ Pem.ofLines ending lines) = .ok c := by
  have body := Pem.isBody_lines h.der_ne_nil filled whole ends
  have lacks : ¬ Pem.opening <:+: ending := by
    rcases ends with rfl | rfl
    · decide
    · decide
  have marked : textMark <:+: front ++ Pem.ofLines ending lines := by
    have here : textMark <+: Pem.openingLine := by decide
    have opens : Pem.openingLine <+: Pem.ofLines ending lines := by
      simp only [Pem.ofLines, List.append_assoc]
      exact List.prefix_append _ _
    exact (here.trans opens).isInfix.trans (List.suffix_append front _).isInfix
  have labelled : labels.contains "CERTIFICATE" = true := by decide
  rw [ofFile_of_marked marked, ofPem, Pem.ofLines, body.readAll_eq introduces ends lacks]
  simp only [Except.mapError, Outcome.ok_bind, List.find?_cons, labelled]
  rw [show ofDer c.der = .ok c from h]

end Certificate

namespace InputFile

variable {fs : FileSystem} {path : String} {b : Bytes} {c : Certificate}

/-- The certificate at a path is what the octets there are read as. -/
theorem certificate_eq_ok_iff (held : octets fs .certificate path = .ok b) :
    certificate fs path = .ok c ↔ Certificate.ofFile b = .ok c := by
  rw [certificate, held]
  simp only [Except.mapError, Outcome.ok_bind]
  rcases Certificate.ofFile b with (_ | _ | (_ | _)) | c'
  · exact ⟨nofun, nofun⟩
  · exact ⟨nofun, nofun⟩
  · exact ⟨nofun, nofun⟩
  · exact ⟨nofun, nofun⟩
  · exact Outcome.pure_eq_ok.trans (by simp)

/-- A file with a certificate as text is read as the certificate. A file with its octets is read as the
certificate exactly if what text is told by does not occur in them; where it does, what is read, if
anything, is shorter than the certificate. -/
theorem certificate_encodings (fs : FileSystem) (path : String) (c : Certificate) (h : c.IsRead) :
    (∀ (front ending : Bytes) (lines : List Bytes), Pem.IsIntroduction front → Pem.IsLineEnd ending →
      (∀ l ∈ lines, l ≠ []) → lines.flatten = Base64.encode c.der →
      octets fs .certificate path = .ok (front ++ Pem.ofLines ending lines) →
      certificate fs path = .ok c) ∧
    (octets fs .certificate path = .ok c.der →
      (certificate fs path = .ok c ↔ ¬ Certificate.textMark <:+: c.der) ∧
      (Certificate.textMark <:+: c.der →
        ∀ c', certificate fs path = .ok c' → c'.der.length < c.der.length)) := by
  refine ⟨fun front ending lines introduces ends filled whole held =>
    (certificate_eq_ok_iff held).2 (h.ofFile_text introduces ends filled whole), fun held => ?_⟩
  have shorter : Certificate.textMark <:+: c.der →
      ∀ c', certificate fs path = .ok c' → c'.der.length < c.der.length := by
    intro marked c' read
    rw [certificate_eq_ok_iff held, Certificate.ofFile_of_marked marked] at read
    exact Certificate.length_lt_of_ofPem read
  refine ⟨⟨fun read marked => ?_, fun lacks => ?_⟩, shorter⟩
  · exact (shorter marked c read).false
  · exact (certificate_eq_ok_iff held).2 (h.ofFile_octets lacks)

/-- A certificate for the short key, issued by and for a name that reads like the beginning of a block. -/
def markedCertificate : Bytes :=
  let algorithm := Signature.algorithmWithNull [1, 2, 840, 113549, 1, 1, 11]
  let name := Der.sequence [Der.element 0x31 (Der.sequence [Signature.identifier [2, 5, 4, 3],
    Der.element 0x0c Certificate.textMark])]
  let validity := Der.sequence [Der.element 0x17 (Bytes.ofAscii "240101000000Z"),
    Der.element 0x17 (Bytes.ofAscii "340101000000Z")]
  Der.sequence
    [Der.sequence [Der.explicit 0 (Der.integer 2), Der.integer 9, algorithm, name, validity, name,
      PublicKey.encode (.rsa Signature.shortKey.1 65537)], algorithm, Der.element 0x03 [0]]

/-- Files with that certificate as octets and as text behind a line of other text. -/
def markedFiles : FileSystem :=
  ⟨[(["d"], .file ⟨markedCertificate, 0o644, none⟩),
    (["t"], .file ⟨Bytes.ofAscii "signer\n" ++ Pem.ofLines [10] [Base64.encode markedCertificate],
      0o644, none⟩)], []⟩

/-- The marked certificate is read from the text, and not from the octets. -/
theorem certificate_encodings_marked : ∃ c, c.IsRead ∧ c.der = markedCertificate ∧
    certificate markedFiles "t" = .ok c ∧ certificate markedFiles "d" ≠ .ok c := by
  have read : (Certificate.ofDer markedCertificate).toOption.isSome = true := by
    decide +kernel
  rcases found : Certificate.ofDer markedCertificate with p | c
  · rw [found] at read
    cases read
  · have sameOctets : c.der = markedCertificate := Certificate.ofDer_der found
    have isRead : c.IsRead := Certificate.isRead_of_ofDer found
    have plain : FileSystem.IsPlain "d" ∧ FileSystem.IsPlain "t" := by
      decide +kernel
    have der : octets markedFiles .certificate "d" = .ok c.der :=
      sameOctets ▸ FileSystem.octets_of_isPlain (f := ⟨markedCertificate, 0o644, none⟩) plain.1 rfl rfl
    have text : octets markedFiles .certificate "t" =
        .ok (Bytes.ofAscii "signer\n" ++ Pem.ofLines [10] [Base64.encode c.der]) :=
      sameOctets ▸ FileSystem.octets_of_isPlain (f := ⟨_, 0o644, none⟩) plain.2 rfl rfl
    have marked : Certificate.textMark <:+: c.der := by
      rw [sameOctets, ← Bytes.containsRun_iff]
      decide +kernel
    have fromText := (certificate_encodings markedFiles "t" c isRead).1 _ _ _
      ⟨.inr (by decide), by decide⟩ (.inl rfl) ?_ (by simp) text
    have fromOctets := (certificate_encodings markedFiles "d" c isRead).2 der
    · exact ⟨c, isRead, sameOctets, fromText, fun read => fromOctets.1.1 read marked⟩
    · simpa using Base64.encode_ne_nil isRead.der_ne_nil

end InputFile

end ImageSigning
