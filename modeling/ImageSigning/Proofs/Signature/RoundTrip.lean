import ImageSigning.Proofs.Signature.Components
import ImageSigning.Proofs.Signature.Made

/-!
# Reading a signature that was made

A signature that was made is read back from its octets, with padding behind them or not, up to the
order of its certificates: they come back in the order of the set. The signer is looked for in that
order, by serial number and issuer, and the search reads the issuer of every certificate with the
right serial number. So it depends on the first certificate that decides the search: one with the
signer's serial number whose issuer is the signer's or cannot be read.

* **`IsObscured`** — the certificate that decides the search has an unreadable issuer.
* **`findSigner_eq_ok_iff`** — the search finds the deciding certificate if its issuer is readable.
* **`decode_encode`** — the octets of a signature read as its parts with the signer that is found.
* **`decode_made`** — a signature that was made reads back exactly if it is not obscured, and then
  with the same parts; one without further certificates reads back as it was.
-/

namespace ImageSigning.Signature

open Der Tlv

/-! ## The search for the signer -/

/-- A member of a list with a property that no earlier member has. -/
def FirstIn {α : Type} (p : α → Prop) (l : List α) (a : α) : Prop :=
  ∃ before after, l = before ++ a :: after ∧ p a ∧ ∀ x ∈ before, ¬ p x

section
variable {α : Type} {p : α → Prop}

/-- Nothing is the first in an empty list. -/
theorem not_firstIn_nil {a : α} : ¬ FirstIn p [] a := by
  rintro ⟨before, after, shown, -⟩
  simp at shown

/-- The first is the head if that will do, and otherwise the first of the others. -/
theorem firstIn_cons_iff {a b : α} {l : List α} :
    FirstIn p (b :: l) a ↔ (p b ∧ a = b) ∨ (¬ p b ∧ FirstIn p l a) := by
  constructor
  · rintro ⟨_ | ⟨c, before⟩, after, shown, here, earlier⟩
    · obtain ⟨rfl, rfl⟩ := List.cons.inj shown
      exact .inl ⟨here, rfl⟩
    · obtain ⟨rfl, rfl⟩ := List.cons.inj shown
      exact .inr ⟨earlier _ (by simp), before, after, rfl, here,
        fun x m => earlier x (List.mem_cons_of_mem _ m)⟩
  · rintro (⟨here, rfl⟩ | ⟨other, before, after, rfl, here, earlier⟩)
    · exact ⟨[], l, rfl, here, by simp⟩
    · refine ⟨b :: before, after, rfl, here, ?_⟩
      intro x m
      rcases List.mem_cons.1 m with rfl | m
      · exact other
      · exact earlier x m

/-- Where there are some, there is a first. -/
theorem exists_firstIn {l : List α} (h : ∃ a ∈ l, p a) : ∃ a, FirstIn p l a := by
  induction l with
  | nil => simp at h
  | cons b l ih =>
    by_cases here : p b
    · exact ⟨b, firstIn_cons_iff.2 (.inl ⟨here, rfl⟩)⟩
    · obtain ⟨a, m, holds⟩ := h
      rcases List.mem_cons.1 m with rfl | m
      · exact (here holds).elim
      · obtain ⟨c, first⟩ := ih ⟨a, m, holds⟩
        exact ⟨c, firstIn_cons_iff.2 (.inr ⟨here, first⟩)⟩

/-- The first is one of them. -/
theorem FirstIn.mem {a : α} {l : List α} (h : FirstIn p l a) : a ∈ l := by
  obtain ⟨before, after, rfl, -, -⟩ := h
  simp

/-- There is only one first. -/
theorem FirstIn.eq {a b : α} {l : List α} (ha : FirstIn p l a) (hb : FirstIn p l b) : a = b := by
  induction l with
  | nil => exact (not_firstIn_nil ha).elim
  | cons c l ih =>
    rcases firstIn_cons_iff.1 ha with ⟨here, rfl⟩ | ⟨other, ha⟩
    · rcases firstIn_cons_iff.1 hb with ⟨-, rfl⟩ | ⟨other, -⟩
      · rfl
      · exact (other here).elim
    · rcases firstIn_cons_iff.1 hb with ⟨here, -⟩ | ⟨-, hb⟩
      · exact (other here).elim
      · exact ih ha hb

end

/-- Whether a name can be read. -/
def IsReadable (n : Name) : Prop := ∃ groups, n.read = .ok groups

/-- Whether a certificate decides the search for a signer: it has the serial number, and its issuer is
the one that is looked for or cannot be read. -/
def Decides (serial : Int) (issuer : Bytes) (c : Certificate) : Prop :=
  c.serial = serial ∧ (c.issuer.whole = issuer ∨ ¬ IsReadable c.issuer)

/-- The search finds the deciding certificate if its issuer is readable, and nothing otherwise. -/
theorem findSigner_eq_ok_iff {serial : Int} {issuer : Bytes} {cs : List Certificate}
    {c : Certificate} : findSigner serial issuer cs = .ok c ↔
      FirstIn (Decides serial issuer) cs c ∧ IsReadable c.issuer := by
  induction cs with
  | nil => simp [findSigner, not_firstIn_nil]
  | cons d cs ih =>
    rw [firstIn_cons_iff, findSigner]
    by_cases number : d.serial = serial
    · rw [if_pos number, Outcome.bind_eq_ok]
      by_cases readable : IsReadable d.issuer
      · obtain ⟨groups, read⟩ := readable
        by_cases name : d.issuer.whole = issuer
        · have decides : Decides serial issuer d := ⟨number, .inl name⟩
          simp only [Outcome.mapError_eq_ok, read, if_pos name, Outcome.pure_eq_ok]
          constructor
          · rintro ⟨_, -, rfl⟩
            exact ⟨.inl ⟨decides, rfl⟩, groups, read⟩
          · rintro ⟨⟨-, rfl⟩ | ⟨other, -⟩, -⟩
            · exact ⟨groups, rfl, rfl⟩
            · exact (other decides).elim
        · have passes : ¬ Decides serial issuer d := by
            rintro ⟨-, same | unreadable⟩
            · exact name same
            · exact unreadable ⟨groups, read⟩
          simp only [Outcome.mapError_eq_ok, read, if_neg name]
          constructor
          · rintro ⟨_, -, h⟩
            obtain ⟨first, found⟩ := ih.1 h
            exact ⟨.inr ⟨passes, first⟩, found⟩
          · rintro ⟨⟨decides, -⟩ | ⟨-, first⟩, found⟩
            · exact (passes decides).elim
            · exact ⟨groups, rfl, ih.2 ⟨first, found⟩⟩
      · have decides : Decides serial issuer d := ⟨number, .inr readable⟩
        constructor
        · rintro ⟨groups, read, -⟩
          exact (readable ⟨groups, Outcome.mapError_eq_ok.1 read⟩).elim
        · rintro ⟨⟨-, rfl⟩ | ⟨other, -⟩, found⟩
          · exact (readable found).elim
          · exact (other decides).elim
    · have passes : ¬ Decides serial issuer d := fun decides => number decides.1
      rw [if_neg number, ih]
      simp [passes]

/-! ## Reading what was written -/

/-- The certificates in the order of the set. -/
def inSetOrder (s : Signature) : List Certificate := orderedOn (·.der) s.certificates

/-- Whether the certificate that decides the search for the signer has an unreadable issuer. -/
def IsObscured (s : Signature) : Prop :=
  ∃ c, FirstIn (Decides s.signer.serial s.signer.issuer.whole) s.inSetOrder c ∧
    ¬ IsReadable c.issuer

/-- The signature as it is read if a certificate is found to be the signer's. -/
def readWith (s : Signature) (c : Certificate) : Signature :=
  { s with
    signer := c
    attributes := ordered s.attributes
    others := s.inSetOrder.erase c
    der := s.encode }

/-- Certificates that were read are read again from their octets. -/
theorem readCertificates_eq {cs : List Certificate} (h : ∀ c ∈ cs, c.IsRead) :
    readCertificates (cs.map (·.der)) = .ok cs := by
  unfold readCertificates
  rw [Outcome.mapM_eq_ok_iff]
  induction cs with
  | nil => exact .nil
  | cons c cs ih =>
    have here : Certificate.ofDer c.der = .ok c := h c (by simp)
    exact .cons (Outcome.mapError_eq_ok.2 here) (ih fun d m => h d (by simp [m]))

/-- The octets of a signature, and what follows, read as its parts with the signer that is found. -/
theorem decode_encode {s : Signature} (writable : IsWritable .basic s)
    (short : s.encode.length < elementLimit)
    (bound : BoundDigest.read? s.content = some ⟨s.digest.algorithm.oid, s.digest.octets⟩)
    (read : ∀ c ∈ s.certificates, c.IsRead) (padding : Bytes) :
    decode (s.encode ++ padding)
      = (findSigner s.signer.serial s.signer.issuer.whole s.inSetOrder).map s.readWith := by
  have certificates : readCertificates (ordered (s.certificates.map (·.der)))
      = .ok s.inSetOrder := by
    rw [← map_orderedOn]
    exact readCertificates_eq fun c m => read c ((orderedOn_perm _ _).mem_iff.1 m)
  have attributes : (if s.attributes.isEmpty then none else some (ordered s.attributes)).getD []
      = ordered s.attributes := by
    split
    · rename_i noAttributes
      rw [List.isEmpty_iff.1 noAttributes]
      rfl
    · rfl
  have info := read?_signedData writable (length_signedData_lt short)
  unfold decode
  rw [read?_encode short padding]
  simp only [require, Outcome.ok_bind, ne_eq, not_true_eq_false, if_false, Option.bind_some, info,
    bound, DigestAlgorithm.ofOid?_oid, pure, Except.pure, Digest.ofOctets?_octets,
    Except.mapError, certificates, List.head?_cons, attributes]
  rcases findSigner s.signer.serial s.signer.issuer.whole s.inSetOrder with p | c
  · rfl
  · rfl

/-! ## The round trip -/

section
variable {i : Identity} {d : Digest} {s : Signature}

/-- The signer's certificate is in the set. -/
theorem signer_mem_inSetOrder (s : Signature) : s.signer ∈ s.inSetOrder :=
  (orderedOn_perm _ _).mem_iff.2 (List.mem_cons_self ..)

/-- Some certificate always decides the search, since the signer's own does if no other. -/
theorem exists_decisive (s : Signature) :
    ∃ c, FirstIn (Decides s.signer.serial s.signer.issuer.whole) s.inSetOrder c :=
  exists_firstIn ⟨s.signer, signer_mem_inSetOrder s, rfl, .inl rfl⟩

/-- A complete signature reads as its parts with the deciding certificate, if that is readable. -/
theorem IsComplete.decode_eq_ok_iff (h : IsComplete i d s) (read : i.certificate.IsRead)
    {t : Signature} (padding : Bytes) : decode (s.der ++ padding) = .ok t ↔
      ∃ c, FirstIn (Decides s.signer.serial s.signer.issuer.whole) s.inSetOrder c ∧
        IsReadable c.issuer ∧ t = s.readWith c := by
  have bound : BoundDigest.read? s.content
      = some ⟨s.digest.algorithm.oid, s.digest.octets⟩ := by
    rw [h.content, h.digest, ← List.append_nil (bind d)]
    exact read?_bind d []
  have outcome := decode_encode (h.isWritable read) h.short bound (h.isRead read) padding
  rw [← h.der] at outcome
  rw [outcome, Outcome.map_eq_ok]
  simp only [findSigner_eq_ok_iff]
  constructor
  · rintro ⟨c, ⟨first, readable⟩, rfl⟩
    exact ⟨c, first, readable, rfl⟩
  · rintro ⟨c, first, readable, rfl⟩
    exact ⟨c, ⟨first, readable⟩, rfl⟩

/-- A complete signature can be read back exactly if it is not obscured. -/
theorem IsComplete.exists_decode_iff (h : IsComplete i d s) (read : i.certificate.IsRead)
    (padding : Bytes) : (∃ t, decode (s.der ++ padding) = .ok t) ↔ ¬ s.IsObscured := by
  simp only [h.decode_eq_ok_iff read padding]
  constructor
  · rintro ⟨t, c, first, readable, -⟩ ⟨c', first', unreadable⟩
    obtain rfl := first.eq first'
    exact unreadable readable
  · intro clear
    obtain ⟨c, first⟩ := exists_decisive s
    have readable : IsReadable c.issuer := by
      by_contra unreadable
      exact clear ⟨c, first, unreadable⟩
    exact ⟨_, c, first, readable, rfl⟩

/-- Reading rearranges the certificates and loses none. -/
theorem certificates_readWith {c : Certificate} (h : c ∈ s.inSetOrder) :
    (s.readWith c).certificates.Perm s.certificates :=
  (List.perm_cons_erase h).symm.trans (orderedOn_perm _ _)

/-- The deciding certificate is the signer's if no other has the signer's serial number and issuer. -/
theorem FirstIn.eq_signer {c : Certificate}
    (first : FirstIn (Decides s.signer.serial s.signer.issuer.whole) s.inSetOrder c)
    (readable : IsReadable c.issuer)
    (alone : ∀ c ∈ s.others, c.serial = s.signer.serial →
      c.issuer.whole = s.signer.issuer.whole → c = s.signer) : c = s.signer := by
  obtain ⟨-, -, -, ⟨number, name⟩, -⟩ := id first
  have issuer : c.issuer.whole = s.signer.issuer.whole :=
    name.resolve_right fun unreadable => unreadable readable
  rcases List.mem_cons.1 ((orderedOn_perm _ _).mem_iff.1 first.mem) with here | other
  · exact here
  · exact alone c other number issuer

/-- Without further certificates a complete signature reads back as it was. -/
theorem IsComplete.decode_of_others_eq_nil (h : IsComplete i d s) (read : i.certificate.IsRead)
    (noOthers : s.others = []) (padding : Bytes) : decode (s.der ++ padding) = .ok s := by
  have alone : s.inSetOrder = [s.signer] := by
    unfold inSetOrder certificates
    rw [noOthers]
    rfl
  refine (h.decode_eq_ok_iff read padding).2 ⟨s.signer, ?_, h.issuer, ?_⟩
  · rw [alone]
    exact firstIn_cons_iff.2 (.inl ⟨⟨rfl, .inl rfl⟩, rfl⟩)
  · unfold readWith
    rw [alone, h.ordered_attributes, ← h.der]
    simp [← noOthers]

/-- **Reading back.** A signature that was made reads back from its octets with any padding exactly if
it is not obscured. It then has the same parts, the certificates in the order of the set, and keeps
the octets without the padding. It has the same signer unless another certificate shares the signer's
serial number and issuer; without further certificates it is the same signature altogether. -/
theorem decode_made (read : i.certificate.IsRead) (isMade : Made i d s) (padding : Bytes) :
    ((∃ t, decode (s.der ++ padding) = .ok t) ↔ ¬ s.IsObscured) ∧
    (∀ t, decode (s.der ++ padding) = .ok t →
      t.der = s.der ∧ t.digest = s.digest ∧ t.value = s.value ∧ t.algorithm = s.algorithm ∧
      t.content = s.content ∧ t.attributes = s.attributes ∧ t.contentType = s.contentType ∧
      t.certificates.Perm s.certificates ∧
      ((∀ c ∈ s.others, c.serial = s.signer.serial → c.issuer.whole = s.signer.issuer.whole →
        c = s.signer) → t.signer = s.signer ∧ t.others = s.inSetOrder.erase s.signer)) ∧
    (s.others = [] → decode (s.der ++ padding) = .ok s) := by
  have complete := isMade.isComplete
  refine ⟨complete.exists_decode_iff read padding, ?_, ?_⟩
  · intro t decoded
    obtain ⟨c, first, readable, rfl⟩ := (complete.decode_eq_ok_iff read padding).1 decoded
    refine ⟨complete.der.symm, rfl, rfl, rfl, rfl, complete.ordered_attributes, rfl,
      certificates_readWith first.mem, ?_⟩
    intro alone
    have signer := first.eq_signer readable alone
    exact ⟨signer, by rw [← signer]; rfl⟩
  · intro noOthers
    exact complete.decode_of_others_eq_nil read noOthers padding

end

/-- The signature of the short key over the empty message is not obscured and reads back from its
octets with three zeros behind them. -/
theorem decode_made_shortIdentity : ∃ c s, c.IsRead ∧
    Made (shortIdentity c) (.compute .sha256 []) s ∧ ¬ s.IsObscured ∧
    decode (s.der ++ Bytes.zeros 3) = .ok s := by
  obtain ⟨c, s, w', read, built, -⟩ := exists_build_shortIdentity
  have others := (isComplete_of_build built).2
  obtain ⟨succeeds, -, same⟩ := decode_made read (.built built) (Bytes.zeros 3)
  exact ⟨c, s, read, .built built, succeeds.1 ⟨s, same others⟩, same others⟩

end ImageSigning.Signature
