import ImageSigning.Proofs.Bundle
import ImageSigning.Proofs.Image.Rewriting
import ImageSigning.Proofs.Signature.Augmentation

/-!
# Who a signature is attributed to

A signature names its signer by issuer and serial number alone. Whoever reads it takes the first
certificate in the set with that name, and the set is sorted by octets, with the certificates that were
added among the others. So an added certificate takes the place of the signer's exactly if it has the
same issuer and serial number and sorts before it, whatever key it holds. What the key returned stays as
it was: it is one by the signer's certificate, whichever certificate it is attributed to.

* **`firstIn_orderedOn_iff`** — the first in the order of the encodings is the least.
* **`IsComplete.signer_eq_iff`** — when a signature that is read has the signer that it was made by.
* **`Made.isBy`** — the value of a signature that was made is one by the signer's certificate.
* **`attribution`** — who a signature is attributed to that was made and is read, alone or in an image.
-/

namespace ImageSigning

open Der

/-! ## Certificates with one name -/

namespace Certificate

/-- Whether two certificates have the same issuer and serial number. -/
def SharesName (c d : Certificate) : Prop :=
  c.serial = d.serial ∧ c.issuer.whole = d.issuer.whole

/-- Certificates with the same octets are the same. -/
theorem IsRead.eq_of_der {c d : Certificate} (hc : c.IsRead) (hd : d.IsRead)
    (h : c.der = d.der) : c = d := by
  unfold IsRead at hc hd
  rw [h, hd] at hc
  exact (Except.ok.inj hc).symm

end Certificate

namespace Signature

/-! ## The first in the order -/

/-- A member may stand beside itself. -/
theorem precedes_self (x : Bytes) : Precedes x x := (or_self _).mp (Std.Total.total x x)

/-- Where encodings are elements and tell what they encode, the first thing in their order with a
property is the least. -/
theorem firstIn_orderedOn_iff {α : Type} {f : α → Bytes} {p : α → Prop} {l : List α} {a : α}
    (single : ∀ x ∈ l, IsSingle (f x)) (tells : ∀ x ∈ l, ∀ y ∈ l, f x = f y → x = y) :
    FirstIn p (orderedOn f l) a ↔ a ∈ l ∧ p a ∧ ∀ x ∈ l, p x → Precedes (f a) (f x) := by
  have sorted : (orderedOn f l).Pairwise fun x y => Precedes (f x) (f y) := by
    have encodings := pairwise_ordered (l.map f)
    rwa [← map_orderedOn, List.pairwise_map] at encodings
  have member (x : α) : x ∈ orderedOn f l ↔ x ∈ l := (orderedOn_perm f l).mem_iff
  have least {b : α} (first : FirstIn p (orderedOn f l) b) :
      b ∈ l ∧ p b ∧ ∀ x ∈ l, p x → Precedes (f b) (f x) := by
    refine ⟨(member b).1 first.mem, ?_⟩
    obtain ⟨before, after, shown, here, earlier⟩ := first
    refine ⟨here, fun x m holds => ?_⟩
    rw [shown] at sorted
    rw [← member, shown, List.mem_append, List.mem_cons] at m
    rcases m with m | rfl | m
    · exact (earlier x m holds).elim
    · exact precedes_self (f x)
    · exact List.rel_of_pairwise_cons (List.pairwise_append.1 sorted).2.1 m
  constructor
  · exact least
  · rintro ⟨m, holds, le⟩
    obtain ⟨b, first⟩ := exists_firstIn ⟨a, (member a).2 m, holds⟩
    obtain ⟨mb, holdsb, leb⟩ := least first
    have same := eq_of_precedes (single a m) (single b mb) (le b mb holdsb) (leb a m holds)
    rwa [tells a m b mb same]

section
variable {i : Identity} {d : Digest} {s t : Signature} {padding : Bytes}

/-- A complete signature that was read has the least certificate with the signer's name for its signer. -/
theorem IsComplete.signer_spec (h : IsComplete i d s) (read : i.certificate.IsRead)
    (decoded : decode (s.der ++ padding) = .ok t) :
    FirstIn (·.SharesName s.signer) s.inSetOrder t.signer := by
  obtain ⟨c, first, readable, rfl⟩ := (h.decode_eq_ok_iff read padding).1 decoded
  obtain ⟨before, after, shown, ⟨serial, name⟩, earlier⟩ := first
  have issuer := name.resolve_right fun unreadable => unreadable readable
  refine ⟨before, after, shown, ⟨serial, issuer⟩, fun x m shares => ?_⟩
  exact earlier x m ⟨shares.1, .inl shares.2⟩

/-- The first certificate with the signer's name, in the order of the set, precedes all others with
that name. -/
theorem IsComplete.firstIn_iff (h : IsComplete i d s) (read : i.certificate.IsRead)
    {c : Certificate} : FirstIn (·.SharesName s.signer) s.inSetOrder c ↔
      c ∈ s.certificates ∧ c.SharesName s.signer ∧
        ∀ x ∈ s.certificates, x.SharesName s.signer → Precedes c.der x.der := by
  have all := h.isRead read
  exact firstIn_orderedOn_iff (fun x m => isSingle_of_isRead (all x m))
    fun x m y n same => (all x m).eq_of_der (all y n) same

/-- A complete signature that was read has the signer that it was made by exactly if none of the further
certificates with the signer's name sorts before the signer's. -/
theorem IsComplete.signer_eq_iff (h : IsComplete i d s) (read : i.certificate.IsRead)
    (decoded : decode (s.der ++ padding) = .ok t) : t.signer = s.signer ↔
      ∀ c ∈ s.others, c.SharesName s.signer → Precedes s.signer.der c.der := by
  have first := h.signer_spec read decoded
  constructor
  · intro same c m shares
    rw [same, h.firstIn_iff read] at first
    exact first.2.2 c (List.mem_cons_of_mem _ m) shares
  · intro least
    refine first.eq ((h.firstIn_iff read).2 ⟨List.mem_cons_self .., ⟨rfl, rfl⟩, ?_⟩)
    intro c m shares
    rcases List.mem_cons.1 m with rfl | m
    · exact precedes_self s.signer.der
    · exact least c m shares

/-- A single further certificate takes the signer's place if it has the signer's name and does not sort
behind the signer's. -/
theorem IsComplete.decode_of_others_eq_singleton {c : Certificate} (h : IsComplete i d s)
    (read : i.certificate.IsRead) (one : s.others = [c]) (shares : c.SharesName s.signer)
    (readable : IsReadable c.issuer) (before : ¬ Precedes s.signer.der c.der) :
    decode (s.der ++ padding) = .ok (s.readWith c) := by
  have clear : ¬ s.IsObscured := h.not_isObscured_of_serial (by simp [one, readable])
  obtain ⟨t, decoded⟩ := (h.exists_decode_iff read padding).2 clear
  have other : t.signer ≠ s.signer := by
    intro same
    exact before ((h.signer_eq_iff read decoded).1 same c (by simp [one]) shares)
  obtain ⟨c', first, -, rfl⟩ := (h.decode_eq_ok_iff read padding).1 decoded
  have among : c' ∈ s.certificates := (orderedOn_perm _ _).mem_iff.1 first.mem
  rw [certificates, one, List.mem_cons, List.mem_singleton] at among
  rcases among with here | rfl
  · exact (other here).elim
  · exact decoded

/-- The value of a signature that was made is one by the signer's certificate over the attributes. -/
theorem Made.isBy (h : Made i d s) :
    isBy i.certificate d.algorithm (signedForm s.attributes) s.value = true := by
  induction h with
  | built h =>
    obtain ⟨_, value, _, -, -, verified, -, parts, shape, -, -, rfl⟩ := build_eq_ok h
    have attributes : parts.attributes = attributesFor d.algorithm (bind d) := by rw [shape]
    have produced : parts.value = value := by rw [shape]
    rwa [← attributes, ← produced] at verified
  | @augmented s t path w w' _ h ih =>
    obtain ⟨chain, -, parts, shape, -, -, rfl⟩ := augment_eq_ok h
    have attributes : parts.attributes = s.attributes := by rw [shape]
    have produced : parts.value = s.value := by rw [shape]
    rwa [← attributes, ← produced] at ih

end

end Signature

namespace Image

open CertificateTable Signature

/-! ## An image that is loaded again -/

/-- An image that was loaded and can be digested, was written with further signatures, and was loaded
from the file that was written. -/
structure IsReloaded (before : Image) (added : List StoredSignature) (again : Image) : Prop where
  loaded : ∃ path w w', load path w = (.ok before, w')
  valid : ∃ regions, before.regions = .ok regions
  reloaded : ∃ out path w w',
    ({ before with signatures := ⟨before.signatures.items ++ added⟩ } : Image).toBytes = .ok out ∧
      w.files.read path = .ok out ∧ load path w = (.ok again, w')

section
variable {before again : Image} {added : List StoredSignature}

/-- What is stored of the entry of a signature that was added is in the image that is loaded again. -/
theorem IsReloaded.exists_stored (h : IsReloaded before added again) {x : StoredSignature}
    (m : x ∈ added) :
    ∃ xs, storedOf (padded x.der) = .ok xs ∧ ∀ y ∈ xs, y ∈ again.signatures.items := by
  obtain ⟨path₀, w₀, w₁, found⟩ := h.loaded
  obtain ⟨regions, valid⟩ := h.valid
  obtain ⟨out, path, w, w', written, read, found'⟩ := h.reloaded
  obtain ⟨c, e, -, -, -, -, xss, stored, rfl⟩ :=
    exists_stored_of_load_written found valid written read found'
  obtain ⟨xs, mem, here⟩ := Outcome.exists_of_forall₂ stored (List.mem_append_right _ m)
  exact ⟨xs, here, fun y n => List.mem_flatten.2 ⟨xs, mem, n⟩⟩

/-- The signatures of an image that was loaded are those that their octets hold. -/
theorem decode_of_mem_loaded {path : String} {w w' : World} {s : Signature}
    (h : load path w = (.ok again, w')) (m : .decoded s ∈ again.signatures.items) :
    decode s.der = .ok s := by
  obtain ⟨raw, -, found, -⟩ := exists_ofFile_of_load h
  obtain ⟨b, xs, stored, here, -⟩ := exists_storedOf_of_mem found m
  have kept {b : Bytes} (found : decode b = .ok s) : decode s.der = .ok s := by
    have again := decode_append found []
    rwa [List.append_nil] at again
  rcases storedOf_eq_ok stored with ⟨p, -, -, rfl⟩ | ⟨t, u, found, -, rfl⟩ | ⟨t, q, found, -, rfl⟩
  · exact (keep_ne_decoded _ _ _ (List.mem_singleton.1 here).symm).elim
  · obtain rfl := StoredSignature.decoded.inj (List.mem_singleton.1 here)
    exact kept found
  · rcases List.mem_cons.1 here with here | here
    · obtain rfl := StoredSignature.decoded.inj here
      exact kept found
    · exact (keep_ne_decoded _ _ _ (List.mem_singleton.1 here).symm).elim

end

/-! ## Attribution -/

/-- **Attribution.** Take any signature that was built by an identity and had any certificates added. It
can be read from its octets, with any padding, if the issuers of the added certificates with the signer's
serial number can be read. Whenever it is read, its signer is the one of its certificates with the name
of the identity's certificate whose octets come first, so that it is the identity's certificate exactly
if none of the added certificates with that name comes before. What the key returned is in it, and is
one by the identity's certificate. If it was added to an image that was loaded and can be digested, and
the image was written and loaded again, that is how the image holds it, and nothing else is read from
its octets there. -/
theorem attribution {i : Identity} {d : Digest} {s : Signature} (read : i.certificate.IsRead)
    (isMade : Made i d s) (padding : Bytes) :
    ((∀ c ∈ s.others, c.serial = i.certificate.serial → IsReadable c.issuer) →
      ∃ t, decode (s.der ++ padding) = .ok t) ∧
    ∀ t, decode (s.der ++ padding) = .ok t →
      (t.signer ∈ s.certificates ∧ t.signer.SharesName i.certificate ∧
        ∀ c ∈ s.certificates, c.SharesName i.certificate → Precedes t.signer.der c.der) ∧
      (t.signer = i.certificate ↔
        ∀ c ∈ s.others, c.SharesName i.certificate → Precedes i.certificate.der c.der) ∧
      isBy i.certificate t.digest.algorithm (signedForm t.attributes) t.value = true ∧
      ∀ before added again, IsReloaded before added again → .decoded s ∈ added →
        .decoded t ∈ again.signatures.items ∧
          ∀ u, .decoded u ∈ again.signatures.items → u.der = s.der → u = t := by
  have complete := isMade.isComplete
  have signer := complete.signer
  constructor
  · intro readable
    rw [complete.exists_decode_iff read padding]
    exact complete.not_isObscured_of_serial (by rwa [signer])
  · intro t decoded
    have first := complete.signer_spec read decoded
    have same := complete.signer_eq_iff read decoded
    rw [complete.firstIn_iff read] at first
    rw [signer] at first same
    -- the padding does not matter, so the entry of a table is read alike
    have anywhere (r : Bytes) : decode (s.der ++ r) = .ok t :=
      (complete.decode_eq_ok_iff read r).2 ((complete.decode_eq_ok_iff read padding).1 decoded)
    refine ⟨first, same, ?_, fun before added again reloaded m => ⟨?_, fun u n octets => ?_⟩⟩
    · obtain ⟨c, -, -, rfl⟩ := (complete.decode_eq_ok_iff read padding).1 decoded
      have verified := isMade.isBy
      rw [← complete.ordered_attributes, ← complete.digest] at verified
      exact verified
    · obtain ⟨xs, stored, kept⟩ := reloaded.exists_stored m
      rcases storedOf_eq_ok stored with
        ⟨p, failed, -, -⟩ | ⟨t', u, found, -, rfl⟩ | ⟨t', q, found, -, rfl⟩
      · cases (anywhere _).symm.trans failed
      · obtain rfl := Except.ok.inj ((anywhere _).symm.trans found)
        exact kept _ (List.mem_cons_self ..)
      · obtain rfl := Except.ok.inj ((anywhere _).symm.trans found)
        exact kept _ (List.mem_cons_self ..)
    · obtain ⟨out, path, w, w', -, -, ran⟩ := reloaded.reloaded
      have alone := anywhere []
      rw [List.append_nil, ← octets, decode_of_mem_loaded ran n] at alone
      exact Except.ok.inj alone

/-- The short image, signed by the short key, written and loaded again, attributes the signature to the
short key's certificate. -/
theorem attribution_shortImage : ∃ c s t image again, c.IsRead ∧
    Made (shortIdentity c) (.compute .sha256 []) s ∧ decode (s.der ++ Bytes.zeros 3) = .ok t ∧
    IsReloaded image [.decoded s] again ∧ .decoded t ∈ again.signatures.items ∧ t.signer = c ∧
    isBy t.signer .sha256 (signedForm t.attributes) t.value = true := by
  obtain ⟨image, c, s, out, again, w', w₁, v', -, ran, valid, unsigned, read, built, written, ran'⟩ :=
    exists_reloaded_shortImage
  have others := (isComplete_of_build built).2
  have reloaded : IsReloaded image [.decoded s] again :=
    ⟨⟨_, _, _, ran⟩, valid, out, _, _, v', written, read_surroundingsWith out, ran'⟩
  obtain ⟨succeeds, facts⟩ := @attribution (shortIdentity c) _ s read (.built built) (Bytes.zeros 3)
  obtain ⟨t, decoded⟩ := succeeds (by simp [others])
  obtain ⟨-, same, verified, held⟩ := facts t decoded
  have signer : t.signer = c := same.2 (by simp [others])
  obtain ⟨member, -⟩ := held image _ again reloaded (List.mem_singleton_self _)
  refine ⟨c, s, t, image, again, read, .built built, decoded, reloaded, member, signer, ?_⟩
  have digest : t.digest = .compute .sha256 [] := by
    obtain ⟨_, -, -, rfl⟩ := ((isComplete_of_build built).1.decode_eq_ok_iff read _).1 decoded
    exact (isComplete_of_build built).1.digest
  rw [digest] at verified
  rw [signer]
  exact verified

/-! ## A certificate that takes the signer's place -/

/-- Whether the short key's signature with one certificate, when another is added, is read with the
other for its signer, by whose key it is not. -/
def isTakenFor (mine theirs : Bytes) : Bool :=
  match Certificate.ofDer mine, Certificate.ofDer theirs with
  | .ok c, .ok c' =>
    match build (shortIdentity c) (.compute .sha256 []) noSurroundings with
    | (.ok s, _) =>
      c'.serial = c.serial ∧ c'.issuer.whole = c.issuer.whole ∧ c'.issuer.read.isOk ∧
        ¬ Precedes c.der c'.der ∧
        (encode { s with others := s.others ++ [c'] }).length < elementLimit ∧
        isBy c' .sha256 (signedForm s.attributes) s.value = false
    | _ => false
  | _, _ => false

/-- What it comes to that a certificate is taken for another. -/
theorem exists_of_isTakenFor {mine theirs : Bytes} (h : isTakenFor mine theirs = true) :
    ∃ c c' s w, Certificate.ofDer mine = .ok c ∧ Certificate.ofDer theirs = .ok c' ∧
      build (shortIdentity c) (.compute .sha256 []) noSurroundings = (.ok s, w) ∧
      c'.SharesName c ∧ IsReadable c'.issuer ∧ ¬ Precedes c.der c'.der ∧
      (encode { s with others := s.others ++ [c'] }).length < elementLimit ∧
      isBy c' .sha256 (signedForm s.attributes) s.value = false := by
  unfold isTakenFor at h
  split at h
  · rename_i c c' mine' theirs'
    split at h
    · rename_i s w built
      obtain ⟨serial, issuer, readable, before, short, unverified⟩ := of_decide_eq_true h
      have readable' : IsReadable c'.issuer := by
        rcases read : c'.issuer.read with p | groups
        · rw [read] at readable
          cases readable
        · exact ⟨groups, read⟩
      exact ⟨c, c', s, w, mine', theirs', built, ⟨serial, issuer⟩, readable', before, short,
        unverified⟩
    · cases h
  · cases h

/-- A bundle that is the one file there is read. -/
theorem bundle_surroundingsWith {cs : List Certificate} (h : ∀ c ∈ cs, c.IsRead) :
    InputFile.bundle (surroundingsWith (Bundle.write cs)).files "i" = .ok cs := by
  have plain : FileSystem.IsPlain "i" := by
    decide +kernel
  have octets : InputFile.octets (surroundingsWith (Bundle.write cs)).files .chain "i"
      = .ok (Bundle.write cs) :=
    FileSystem.octets_of_isPlain (f := ⟨Bundle.write cs, 0o644, none⟩) plain rfl rfl
  simp only [InputFile.bundle, octets, Except.mapError, Outcome.ok_bind, Bundle.read_write h]
  rfl

/-- A certificate that is taken for the signer's is what the signature is attributed to once a bundle
with it was added. -/
theorem exists_decode_of_isTakenFor {mine theirs : Bytes} (h : isTakenFor mine theirs = true) :
    ∃ c s t u w₁ w₂, Certificate.ofDer mine = .ok c ∧
      build (shortIdentity c) (.compute .sha256 []) noSurroundings = (.ok s, w₁) ∧
      s.augment "i" (surroundingsWith (Pem.write "CERTIFICATE" theirs)) = (.ok t, w₂) ∧
      decode t.der = .ok u ∧ u.signer ≠ s.signer ∧
      isBy u.signer u.digest.algorithm (signedForm u.attributes) u.value = false := by
  obtain ⟨c, c', s, w₁, mine', theirs', built, shares, readable, before, short, unverified⟩ :=
    exists_of_isTakenFor h
  have read : c.IsRead := Certificate.isRead_of_ofDer mine'
  have read' : c'.IsRead := Certificate.isRead_of_ofDer theirs'
  obtain ⟨complete, others⟩ := isComplete_of_build built
  have signer : s.signer = c := complete.signer
  have bundle : InputFile.bundle (surroundingsWith (Pem.write "CERTIFICATE" theirs)).files "i"
      = .ok [c'] := by
    have one := bundle_surroundingsWith (List.forall_mem_singleton.2 read')
    rwa [Bundle.write, List.flatMap_singleton, Certificate.ofDer_der theirs'] at one
  obtain ⟨w₂, augmented⟩ := (augment_gives complete.issuer bundle rfl short).exists_ok
  have decoded := @IsComplete.decode_of_others_eq_singleton _ _ _ [] c' (complete.augment augmented)
    read (by simp [others]) (by rwa [signer]) readable (by rwa [signer])
  rw [List.append_nil] at decoded
  refine ⟨c, s, _, _, w₁, w₂, mine', built, augmented, decoded, ?_, ?_⟩
  · intro same
    have single : c' = c := same.trans signer
    rw [single] at before
    exact before (precedes_self c.der)
  · have digest : s.digest.algorithm = .sha256 := by rw [complete.digest]; rfl
    have attributes : ordered s.attributes = s.attributes := complete.ordered_attributes
    rw [← attributes, ← digest] at unverified
    exact unverified

/-- The short key's certificate with another key in it: one octet of the modulus is less. -/
def twinCertificate : Bytes := (shortCertificate 9).set 177 0xe3

set_option maxRecDepth 100000 in
/-- The other certificate with the same issuer and number is taken for the signer's. -/
theorem isTakenFor_twinCertificate : isTakenFor (shortCertificate 9) twinCertificate = true := by
  decide +kernel

/-- A certificate with the signer's name and another key, added to a signature of the short key, takes
the signer's place: the signature is read as one by a key that it is not by. -/
theorem not_attributed_twinCertificate : ∃ c s t u w₁ w₂,
    Certificate.ofDer (shortCertificate 9) = .ok c ∧
    build (shortIdentity c) (.compute .sha256 []) noSurroundings = (.ok s, w₁) ∧
    s.augment "i" (surroundingsWith (Pem.write "CERTIFICATE" twinCertificate)) = (.ok t, w₂) ∧
    decode t.der = .ok u ∧ u.signer ≠ s.signer ∧
    isBy u.signer u.digest.algorithm (signedForm u.attributes) u.value = false :=
  exists_decode_of_isTakenFor isTakenFor_twinCertificate

end Image

end ImageSigning
