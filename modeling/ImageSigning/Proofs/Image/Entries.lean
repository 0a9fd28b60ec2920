import ImageSigning.Proofs.Image.Loading
import ImageSigning.Proofs.Signature.Extent
import ImageSigning.Proofs.Signature.RoundTrip

/-!
# Signatures that go through a table

A signature of an image is written into a table entry, filled up with zeros, and stored again from the
entry when the table is loaded. If one signature is stored of the entry, it has the same octets, with
some of the zeros only where the octets were no whole element.

* **`IsCarried`** — how a signature comes into an image: stored of an entry, or made.
* **`IsCarried.exists_padding`** — what a signature that went through a table has for octets.
* **`isTakenOnce_of_storedOf`** — signatures that can be told of go through as one.
* **`isTakenOnce_of_made`** — so does one that was made, if its signer is found in it.
-/

namespace ImageSigning

open Der Tlv CertificateTable

namespace StoredSignature

/-- What is kept of octets is a beginning of them, and all of what an element's extent says. -/
theorem keep_spec (content : Bytes) (reason : String) :
    ∃ rest, content = (keep content reason).der ++ rest ∧
      ∀ n, elementLength? (keep content reason).der = some n → n = (keep content reason).der.length := by
  unfold keep
  split
  · rename_i n found
    refine ⟨content.drop n, (List.take_append_drop n content).symm, fun m h => ?_⟩
    have whole := elementLength?_take found
    exact Option.some.inj (h.symm.trans whole)
  · rename_i unfit
    refine ⟨[], (List.append_nil content).symm, fun m h => ?_⟩
    change elementLength? content = some m at h
    rw [unfit] at h
    cases h

end StoredSignature

namespace Image

open StoredSignature

/-- What is stored of an entry: its octets, or the signature in it, or both. -/
theorem storedOf_eq_ok {b : Bytes} {xs : List StoredSignature} (h : storedOf b = .ok xs) :
    (∃ p, Signature.decode b = .error p ∧ p.isForeign = true ∧ xs = [keep b p.message]) ∨
    (∃ s t, Signature.decode b = .ok s ∧ s.signer.subject.show = .ok t ∧ xs = [.decoded s]) ∨
    (∃ s q, Signature.decode b = .ok s ∧ s.signer.subject.show = .error q ∧
      xs = [.decoded s, keep b (SignatureProblem.issuer q).message]) := by
  unfold storedOf at h
  split at h
  · rename_i p failed
    split at h
    · rename_i foreign
      exact .inl ⟨p, failed, foreign, (Except.ok.inj h).symm⟩
    · cases h
  · rename_i s found
    split at h
    · rename_i t shown
      exact .inr (.inl ⟨s, t, found, shown, (Except.ok.inj h).symm⟩)
    · rename_i q unshown
      split at h
      · exact .inr (.inr ⟨s, q, found, unshown, (Except.ok.inj h).symm⟩)
      · cases h

/-- The ways in which a signature comes into an image: it was stored of a table entry, or made. -/
inductive IsCarried : StoredSignature → Prop
  | stored {b : Bytes} {xs : List StoredSignature} {x : StoredSignature} (h : storedOf b = .ok xs)
      (m : x ∈ xs) : IsCarried x
  | made {i : Identity} {d : Digest} {s : Signature} (read : i.certificate.IsRead)
      (h : Signature.Made i d s) : IsCarried (.decoded s)

/-! ## The octets of what is stored again -/

/-- What is left over behind a filled-up signature is zeros. -/
theorem eq_append_zeros {der b rest : Bytes} {k : Nat} (h : der ++ Bytes.zeros k = b ++ rest)
    (long : der.length ≤ b.length) : b.length - der.length ≤ k ∧
      b = der ++ Bytes.zeros (b.length - der.length) := by
  have size := congrArg List.length h
  rw [List.length_append, List.length_append, Bytes.length_zeros] at size
  have few : b.length - der.length ≤ k := by omega
  refine ⟨few, ?_⟩
  calc b = (b ++ rest).take b.length := (List.take_left ..).symm
    _ = der ++ (Bytes.zeros k).take (b.length - der.length) := by
      rw [← h, List.take_append, List.take_of_length_le long]
    _ = der ++ Bytes.zeros (b.length - der.length) := by
      rw [Bytes.zeros, List.take_replicate, min_eq_left few, Bytes.zeros]

/-- What is kept of octets with padding is no less than the octets, and no more of an element. -/
theorem length_der_keep {der : Bytes} (whole : ∀ n, elementLength? der = some n → n = der.length)
    (r : Bytes) (reason : String) : der.length ≤ (keep (der ++ r) reason).der.length ∧
      (IsElement der → (keep (der ++ r) reason).der.length = der.length) := by
  unfold keep
  split
  · rename_i n found
    have size : (StoredSignature.undecoded ((der ++ r).take n) reason).der.length = n := by
      change ((der ++ r).take n).length = n
      rw [List.length_take, min_eq_left (elementLength?_le found)]
    rw [size]
    refine ⟨length_le_of_elementLength?_append whole found, fun element => ?_⟩
    have extent := elementLength?_append element.elementLength? r
    exact Option.some.inj (found.symm.trans extent)
  · rename_i unfit
    refine ⟨?_, fun element => ?_⟩
    · change der.length ≤ (der ++ r).length
      rw [List.length_append]
      omega
    · have extent := elementLength?_append element.elementLength? r
      rw [unfit] at extent
      cases extent

/-- If one thing is stored of padded octets, it has those octets with some of the padding, and with
none if they are an element. -/
theorem exists_padding_of_storedOf {der : Bytes} {y : StoredSignature}
    (whole : ∀ n, elementLength? der = some n → n = der.length)
    (long : ∀ t, Signature.decode (padded der) = .ok t → (∃ u, t.signer.subject.show = .ok u) →
      der.length ≤ t.der.length)
    (h : storedOf (padded der) = .ok [y]) :
    ∃ j ≤ paddingAfter (headerSize + der.length), y.der = der ++ Bytes.zeros j ∧
      (IsElement der → j = 0) := by
  have parts : (∃ rest, padded der = y.der ++ rest) ∧ der.length ≤ y.der.length ∧
      (IsElement der → y.der.length = der.length) := by
    rcases storedOf_eq_ok h with ⟨p, -, -, shape⟩ | ⟨t, u, found, shown, shape⟩ | ⟨t, q, -, -, shape⟩
    · obtain rfl : y = keep (padded der) p.message := by simpa using shape
      obtain ⟨rest, split, -⟩ := keep_spec (padded der) p.message
      exact ⟨⟨rest, split⟩, length_der_keep whole _ _⟩
    · obtain rfl : y = .decoded t := by simpa using shape
      obtain ⟨e, rest, read, octets⟩ := Signature.exists_read?_of_decode found
      obtain ⟨split, -⟩ := denotes_of_read? read
      rw [octets] at split
      refine ⟨⟨rest, split⟩, long t found ⟨u, shown⟩, fun element => ?_⟩
      obtain ⟨⟨f, denotes⟩, -⟩ := element
      have again := (denotes _).symm.trans read
      obtain ⟨rfl, -⟩ := Prod.mk.inj (Option.some.inj again)
      change t.der.length = der.length
      rw [← octets, denotes.whole_eq]
    · simp at shape
  obtain ⟨⟨rest, split⟩, longer, same⟩ := parts
  obtain ⟨few, octets⟩ := eq_append_zeros split longer
  exact ⟨_, few, octets, fun element => by rw [same element, Nat.sub_self]⟩

/-- An entry that is kept is not decoded. -/
theorem keep_ne_decoded (b : Bytes) (reason : String) (s : Signature) :
    keep b reason ≠ .decoded s := by
  unfold keep
  split <;> simp

/-- Octets that were kept go through a table if what they were kept of was no signature that can be
told of: padding cannot turn a part of it into one. -/
theorem exists_padding_of_keep {b : Bytes} {reason : String} {y : StoredSignature}
    (foreign : ∀ t, Signature.decode b = .ok t → ¬ ∃ u, t.signer.subject.show = .ok u)
    (h : storedOf (padded (keep b reason).der) = .ok [y]) :
    ∃ j ≤ paddingAfter (headerSize + (keep b reason).der.length),
      y.der = (keep b reason).der ++ Bytes.zeros j ∧ (IsElement (keep b reason).der → j = 0) := by
  obtain ⟨more, split, whole⟩ := keep_spec b reason
  generalize (keep b reason).der = der at *
  refine exists_padding_of_storedOf whole (fun t found shown => ?_) h
  by_contra short
  obtain ⟨e, rest, read, octets⟩ := Signature.exists_read?_of_decode found
  obtain ⟨parts, -⟩ := denotes_of_read? read
  -- the signature would be read from the octets alone, and so from what they were kept of
  have inside : der = e.whole ++ der.drop e.whole.length := by
    have cut := congrArg (List.take e.whole.length) parts
    rw [List.take_left, padded, List.take_append_of_le_length (by rw [octets]; omega)] at cut
    calc der = der.take e.whole.length ++ der.drop e.whole.length :=
          (List.take_append_drop ..).symm
      _ = e.whole ++ der.drop e.whole.length := by rw [cut]
  have again : Signature.decode b = .ok t := by
    rw [split, inside, List.append_assoc, Signature.decode_of_read? read, found]
  exact foreign t again shown

/-- A signature's octets are one element, if they are not too many. -/
theorem isElement_encode {s : Signature} (short : s.encode.length < elementLimit) :
    IsElement s.encode :=
  isElement_element (by decide) (Signature.length_content_lt_of_element short)

/-- A signature that went through a table has the same octets, up to padding behind octets that were
no element. -/
theorem IsCarried.exists_padding {x y : StoredSignature} (carried : IsCarried x)
    (h : storedOf (padded x.der) = .ok [y]) :
    ∃ j ≤ paddingAfter (headerSize + x.der.length), y.der = x.der ++ Bytes.zeros j ∧
      ((∃ s, x = .decoded s) ∨ IsElement x.der → j = 0) := by
  have kept {b : Bytes} {reason : String}
      (foreign : ∀ t, Signature.decode b = .ok t → ¬ ∃ u, t.signer.subject.show = .ok u)
      (here : x = keep b reason) :
      ∃ j ≤ paddingAfter (headerSize + x.der.length), y.der = x.der ++ Bytes.zeros j ∧
        ((∃ s, x = .decoded s) ∨ IsElement x.der → j = 0) := by
    subst here
    obtain ⟨j, few, octets, same⟩ := exists_padding_of_keep foreign h
    refine ⟨j, few, octets, fun sort => same (sort.resolve_left ?_)⟩
    rintro ⟨s, shape⟩
    exact keep_ne_decoded b reason s shape
  have decoded {b : Bytes} {s : Signature} (found : Signature.decode b = .ok s)
      (here : x = .decoded s) :
      ∃ j ≤ paddingAfter (headerSize + x.der.length), y.der = x.der ++ Bytes.zeros j ∧
        ((∃ s, x = .decoded s) ∨ IsElement x.der → j = 0) := by
    subst here
    have again : Signature.decode (padded s.der) = .ok s := Signature.decode_append found _
    refine ⟨0, Nat.zero_le _, ?_, fun _ => rfl⟩
    rcases storedOf_eq_ok h with ⟨p, failed, -, -⟩ | ⟨t, u, found', -, shape⟩ | ⟨t, q, -, -, shape⟩
    · cases again.symm.trans failed
    · obtain rfl := Except.ok.inj (again.symm.trans found')
      obtain rfl : y = .decoded s := by simpa using shape
      simp [StoredSignature.der, Bytes.zeros]
    · simp at shape
  cases carried with
  | @stored b xs _ here m =>
    rcases storedOf_eq_ok here with
      ⟨p, failed, -, rfl⟩ | ⟨s, t, found, -, rfl⟩ | ⟨s, q, found, unshown, rfl⟩
    · refine kept (fun t found => ?_) (List.mem_singleton.1 m)
      rw [failed] at found
      cases found
    · exact decoded found (List.mem_singleton.1 m)
    · rcases List.mem_cons.1 m with here | m
      · exact decoded found here
      · refine kept (fun t found' => ?_) (List.mem_singleton.1 m)
        obtain rfl := Except.ok.inj (found.symm.trans found')
        rw [unshown]
        rintro ⟨u, shown⟩
        cases shown
  | @made i d s read isMade =>
    have complete := isMade.isComplete
    have element : IsElement s.der := complete.der ▸ isElement_encode complete.short
    have whole : ∀ n, elementLength? s.der = some n → n = s.der.length := fun n extent =>
      Option.some.inj (extent.symm.trans element.elementLength?)
    have long : ∀ t, Signature.decode (padded s.der) = .ok t →
        (∃ u, t.signer.subject.show = .ok u) → s.der.length ≤ t.der.length := by
      intro t found _
      obtain ⟨c, -, -, rfl⟩ := (complete.decode_eq_ok_iff read _).1 found
      exact le_of_eq (congrArg List.length complete.der)
    obtain ⟨j, few, octets, same⟩ := exists_padding_of_storedOf whole long h
    exact ⟨j, few, octets, fun _ => same element⟩

/-! ## What is stored again as one -/

/-- A signature that was read is stored again as one exactly if its signer can be told of. -/
theorem isTakenOnce_of_decode {b : Bytes} {s : Signature} (found : Signature.decode b = .ok s) :
    IsTakenOnce (padded s.der) ↔ ∃ t, s.signer.subject.show = .ok t := by
  have again : Signature.decode (padded s.der) = .ok s := Signature.decode_append found _
  unfold IsTakenOnce
  rw [again]

/-- An element that was kept of octets that are no signature is stored again as one. -/
theorem isTakenOnce_of_keep {b : Bytes} {p : SignatureProblem} {reason : String}
    (failed : Signature.decode b = .error p) (foreign : p.isForeign = true)
    (element : IsElement (keep b reason).der) : IsTakenOnce (padded (keep b reason).der) := by
  obtain ⟨more, split, -⟩ := keep_spec b reason
  obtain ⟨⟨e, denotes⟩, -⟩ := element
  have read : read? .basic b = some (e, more) := split ▸ denotes more
  have same : Signature.decode (padded (keep b reason).der) = .error p := by
    rw [padded, ← denotes.whole_eq, Signature.decode_of_read? read, failed]
  unfold IsTakenOnce
  rw [same]
  exact foreign

/-- What was stored of an entry is stored again as one if its signers can be told of, and if octets
that were kept and are no element are, with their padding, no signature. -/
theorem isTakenOnce_of_storedOf {b : Bytes} {xs : List StoredSignature} {x : StoredSignature}
    (h : storedOf b = .ok xs) (m : x ∈ xs)
    (shown : ∀ s, .decoded s ∈ xs → ∃ t, s.signer.subject.show = .ok t)
    (kept : (∃ s, x = .decoded s) ∨ IsElement x.der ∨ IsTakenOnce (padded x.der)) :
    IsTakenOnce (padded x.der) := by
  rcases storedOf_eq_ok h with
    ⟨p, failed, foreign, rfl⟩ | ⟨s, t, found, shown', rfl⟩ | ⟨s, q, -, unshown, rfl⟩
  · obtain rfl := List.mem_singleton.1 m
    rcases kept with ⟨s, shape⟩ | element | once
    · exact (keep_ne_decoded _ _ _ shape).elim
    · exact isTakenOnce_of_keep failed foreign element
    · exact once
  · obtain rfl := List.mem_singleton.1 m
    exact (isTakenOnce_of_decode found).2 ⟨t, shown'⟩
  · obtain ⟨t, shown'⟩ := shown s (List.mem_cons_self ..)
    rw [unshown] at shown'
    cases shown'

/-- An entry that holds a signature that was made is stored with the signature's octets, decoded or
not. -/
theorem mem_of_storedOf_made {i : Identity} {d : Digest} {s : Signature}
    {xs : List StoredSignature} (read : i.certificate.IsRead) (isMade : Signature.Made i d s)
    (h : storedOf (padded s.der) = .ok xs) : ∃ x ∈ xs, x.der = s.der := by
  have complete := isMade.isComplete
  have element : IsElement s.der := complete.der ▸ isElement_encode complete.short
  have decoded {t : Signature} (found : Signature.decode (padded s.der) = .ok t) :
      (StoredSignature.decoded t).der = s.der := by
    obtain ⟨c, -, -, rfl⟩ := (complete.decode_eq_ok_iff read _).1 found
    exact complete.der.symm
  rcases storedOf_eq_ok h with ⟨p, -, -, rfl⟩ | ⟨t, u, found, -, rfl⟩ | ⟨t, q, found, -, rfl⟩
  · refine ⟨_, List.mem_singleton_self _, ?_⟩
    have extent : elementLength? (padded s.der) = some s.der.length :=
      elementLength?_append element.elementLength? _
    unfold StoredSignature.keep
    rw [extent]
    exact List.take_left ..
  · exact ⟨_, List.mem_singleton_self _, decoded found⟩
  · exact ⟨_, List.mem_cons_self .., decoded found⟩

/-- A signature that was made is stored again as one if it is not obscured and no other certificate has
the signer's serial number and issuer. -/
theorem isTakenOnce_of_made {i : Identity} {d : Digest} {s : Signature} (read : i.certificate.IsRead)
    (isMade : Signature.Made i d s) (clear : ¬ s.IsObscured)
    (alone : ∀ c ∈ s.others, c.serial = s.signer.serial → c.issuer.whole = s.signer.issuer.whole →
      c = s.signer) : IsTakenOnce (padded s.der) := by
  have complete := isMade.isComplete
  obtain ⟨t, found⟩ := (complete.exists_decode_iff read _).2 clear
  obtain ⟨c, first, readable, rfl⟩ := (complete.decode_eq_ok_iff read _).1 found
  obtain rfl := first.eq_signer readable alone
  unfold IsTakenOnce
  rw [padded, found]
  exact complete.subject

end Image

end ImageSigning
