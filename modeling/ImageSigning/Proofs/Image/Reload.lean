import ImageSigning.Proofs.FileSystem
import ImageSigning.Proofs.Image.Entries
import ImageSigning.Proofs.Image.Writing

/-!
# Loading an image that was written

An image that was written is loaded with its octets and its fields where they were: outside the checksum
and the directory entry nothing changed, so every digest is the same. Its signatures come back one by
one, with the octets that they had, if loading stores one signature of each entry. It stores two of a
signature whose signer's subject cannot be read, and refuses an entry whose certificates it cannot
take: so the number of signatures is kept exactly if no entry is of either kind.

* **`ofFile_written`** — what a written file is loaded as.
* **`ComesBackAs`** — the octets of a signature after writing and loading.
* **`reload`** — the round trip, for every image that was loaded and every list of made signatures.
-/

namespace ImageSigning.Image

open Bytes CertificateTable Der

/-! ## What a written file is loaded as -/

section
variable {image again : Image} {c e : Nat} {out : Bytes} {path : String}

/-- A written file is split where the image was put together. -/
theorem split_written (laid : IsLaidOut image c e) (inside : e + 8 ≤ image.data.length)
    (written : IsWrittenAs image c e out) {parts : Split} : split path out = .ok parts ↔
      (∃ h, Headers.read out = .ok h) ∧
        parts = ⟨out.take image.data.length, image.certificateTable, c, e⟩ := by
  have fields : Headers.HasFields out c e := laid.fields.congr fun n before outside => by
    rw [octetAt, octetAt, written.outside n (by omega) outside (.inl before)]
  have there : e < out.length := by
    rw [written.length]
    omega
  have shape : (numberIn out (e + 4) 4 = 0 ∧ out.take image.data.length = out ∧
      image.certificateTable = []) ∨
      (numberIn out (e + 4) 4 ≠ 0 ∧ numberIn out e 4 + numberIn out (e + 4) 4 = out.length ∧
        e + 8 ≤ numberIn out e 4 ∧ numberIn out e 4 = image.data.length) := by
    have length := written.length
    rcases written.place_cases with ⟨empty, -, size⟩ | ⟨filled, address, size⟩
    · rw [empty, List.length_nil] at length
      exact .inl ⟨size, List.take_of_length_le (by omega), empty⟩
    · have longer := List.length_pos_of_ne_nil filled
      exact .inr ⟨by omega, by omega, by omega, address⟩
  rw [split_eq_ok]
  constructor
  · rintro ⟨h, en, read, found, checksum, entry, split⟩
    obtain ⟨checksum', found'⟩ := fields.certificateTable?_eq there read
    obtain rfl := Option.some.inj (found.symm.trans found')
    refine ⟨⟨h, read⟩, ?_⟩
    rcases parts with ⟨data, table, checksum₁, entry₁⟩
    dsimp only at checksum entry split
    rw [checksum, checksum', entry]
    rcases split with ⟨empty, rfl, rfl⟩ | ⟨filled, -, -, rfl, rfl⟩
    · rcases shape with ⟨-, whole, noTable⟩ | ⟨nonzero, -⟩
      · rw [whole, noTable]
      · exact (nonzero empty).elim
    · rcases shape with ⟨empty, -⟩ | ⟨-, -, -, address⟩
      · exact (filled empty).elim
      · rw [address, written.table]
  · rintro ⟨⟨h, read⟩, rfl⟩
    obtain ⟨checksum', found'⟩ := fields.certificateTable?_eq there read
    refine ⟨h, _, read, found', checksum'.symm, rfl, ?_⟩
    rcases shape with ⟨empty, whole, noTable⟩ | ⟨filled, atEnd, behind, address⟩
    · exact .inl ⟨empty, whole, noTable⟩
    · exact .inr ⟨filled, atEnd, behind, by rw [address], by rw [address, written.table]⟩

/-- The table of an image that was written is short enough for its size to be written. -/
theorem length_certificateTable_lt (written : IsWrittenAs image c e out) :
    image.certificateTable.length < 2 ^ 32 := by
  have limit := numberIn_lt out (e + 4) 4
  rcases written.place_cases with ⟨empty, -, -⟩ | ⟨-, -, size⟩
  · rw [empty]
    exact Nat.two_pow_pos 32
  · omega

/-- What a written file is loaded as: the image, with what is stored of each padded signature. -/
theorem ofFile_written (laid : IsLaidOut image c e) (inside : e + 8 ≤ image.data.length)
    (written : IsWrittenAs image c e out) : ofFile path out = .ok again ↔
      (∃ h, Headers.read out = .ok h) ∧ ∃ xss,
        (image.signatures.items.map fun x => padded x.der).mapM storedOf = .ok xss ∧
        again = ⟨path, out.take image.data.length, c, e, ⟨xss.flatten⟩⟩ := by
  have length : (out.take image.data.length).length = image.data.length := by
    rw [List.length_take, written.length]
    omega
  have filled : out.take image.data.length
      ++ zeros (paddingAfter (out.take image.data.length).length) = out.take image.data.length := by
    rw [length, paddingAfter_of_dvd laid.aligned]
    exact List.append_nil _
  have contents : CertificateTable.read image.certificateTable
      = ⟨.ok (image.signatures.items.map fun x => padded x.der), []⟩ := by
    rw [certificateTable, read_write (length_certificateTable_lt written), List.map_map]
    rfl
  unfold ofFile
  simp only [Outcome.bind_eq_ok, Outcome.mapError_eq_ok, Outcome.pure_eq_ok,
    split_written laid inside written]
  constructor
  · rintro ⟨_, ⟨accepted, rfl⟩, contents', found, xss, stored, rfl⟩
    rw [contents] at found
    obtain rfl := Except.ok.inj found
    exact ⟨accepted, xss, stored, by rw [filled]⟩
  · rintro ⟨accepted, xss, stored, rfl⟩
    exact ⟨_, ⟨accepted, rfl⟩, _, by rw [contents], xss, stored, by rw [filled]⟩

end

/-! ## The signatures -/

/-- The octets of a signature after writing and loading: the same, or, where they were no element,
with some of the zeros that filled the entry up. -/
def ComesBackAs (x y : StoredSignature) : Prop :=
  ∃ j ≤ paddingAfter (headerSize + x.der.length), y.der = x.der ++ zeros j ∧
    ((∃ s, x = .decoded s) ∨ IsElement x.der → j = 0)

/-- Entries that are taken once give their signatures one by one. -/
theorem forall₂_flatten {contents : List Bytes} {xss : List (List StoredSignature)}
    (h : List.Forall₂ (fun b xs => storedOf b = .ok xs) contents xss)
    (once : ∀ b ∈ contents, IsTakenOnce b) :
    List.Forall₂ (fun b y => storedOf b = .ok [y]) contents xss.flatten := by
  induction h with
  | nil => exact .nil
  | cons here _ ih =>
    obtain ⟨y, here'⟩ := isTakenOnce_iff.1 (once _ (List.mem_cons_self ..))
    obtain rfl := Except.ok.inj (here.symm.trans here')
    exact .cons here (ih fun b m => once b (List.mem_cons_of_mem _ m))

/-- The image with signatures added, one after the other. -/
def appendAll (image : Image) (added : List Signature) : Image :=
  added.foldl (fun m s => m.append (.decoded s)) image

/-- Appending signatures puts them behind those that are stored. -/
theorem appendAll_eq (image : Image) (added : List Signature) : image.appendAll added =
    { image with signatures := ⟨image.signatures.items ++ added.map .decoded⟩ } := by
  induction added generalizing image with
  | nil => simp [appendAll]
  | cons s added ih =>
    have rest := ih (image.append (.decoded s))
    unfold appendAll at rest ⊢
    rw [List.foldl_cons, rest]
    simp [append, Store.append]

/-- The headers can be read from the image with its table, before and after the checksum is filled in,
and lie inside the image. -/
structure HeadersStand (image : Image) : Prop where
  unsealed : ∃ h, Headers.read (image.unsealed image.entry.toNat) = .ok h ∧
    ∀ r ∈ h.records, r.offset + r.octets.length ≤ image.data.length
  sealed : ∀ out, image.toBytes = .ok out → ∃ h, Headers.read out = .ok h

/-! ## The round trip -/

section
variable {image again : Image} {c e : Nat} {out : Bytes} {path : String}

/-- The signatures come back one by one if one is stored of each entry. -/
theorem forall₂_comesBackAs {items : List StoredSignature} {xss : List (List StoredSignature)}
    (carried : ∀ x ∈ items, IsCarried x)
    (stored : (items.map fun x => padded x.der).mapM storedOf = .ok xss)
    (once : ∀ x ∈ items, IsTakenOnce (padded x.der)) :
    List.Forall₂ ComesBackAs items xss.flatten := by
  have pairs := forall₂_flatten (Outcome.mapM_eq_ok_iff.1 stored)
    (List.forall_mem_map.2 once)
  rw [List.forall₂_map_left_iff] at pairs
  generalize xss.flatten = ys at pairs
  clear stored once
  induction pairs with
  | nil => exact .nil
  | @cons x y items ys here _ ih =>
    have first : ComesBackAs x y := (carried x (List.mem_cons_self ..)).exists_padding here
    exact .cons first (ih fun z m => carried z (List.mem_cons_of_mem _ m))

/-- As many signatures come back as there were exactly if one is stored of each entry. -/
theorem exists_ofFile_count_iff (laid : IsLaidOut image c e) (inside : e + 8 ≤ image.data.length)
    (written : IsWrittenAs image c e out) (accepted : ∃ h, Headers.read out = .ok h) :
    (∃ again, ofFile path out = .ok again ∧ again.signatures.count = image.signatures.count) ↔
      ∀ x ∈ image.signatures.items, IsTakenOnce (padded x.der) := by
  have contents : (∀ x ∈ image.signatures.items, IsTakenOnce (padded x.der)) ↔
      ∀ b ∈ image.signatures.items.map fun x => padded x.der, IsTakenOnce b :=
    List.forall_mem_map.symm
  rw [contents, forall_isTakenOnce_iff, List.length_map]
  constructor
  · rintro ⟨again, found, count⟩
    obtain ⟨-, xss, stored, rfl⟩ := (ofFile_written laid inside written).1 found
    exact ⟨xss, stored, count⟩
  · rintro ⟨xss, stored, count⟩
    exact ⟨_, (ofFile_written laid inside written).2 ⟨accepted, xss, stored, rfl⟩, count⟩

/-- One signature is stored of each entry if every signer can be told of. -/
theorem isTakenOnce_of_mem_appendAll {raw : Bytes} {added : List Signature}
    (found : ofFile path raw = .ok image)
    (isMade : ∀ s ∈ added, ∃ i d, i.certificate.IsRead ∧ Signature.Made i d s)
    (shown : ∀ s, .decoded s ∈ image.signatures.items → ∃ t, s.signer.subject.show = .ok t)
    (kept : ∀ x ∈ image.signatures.items,
      (∃ s, x = .decoded s) ∨ IsElement x.der ∨ IsTakenOnce (padded x.der))
    (clear : ∀ s ∈ added, s.others = [] ∨ (¬ s.IsObscured ∧ ∀ c ∈ s.others,
      c.serial = s.signer.serial → c.issuer.whole = s.signer.issuer.whole → c = s.signer)) :
    ∀ x ∈ (image.appendAll added).signatures.items, IsTakenOnce (padded x.der) := by
  intro x m
  rw [appendAll_eq, List.mem_append] at m
  rcases m with m | m
  · obtain ⟨b, xs, stored, here, all⟩ := exists_storedOf_of_mem found m
    exact isTakenOnce_of_storedOf stored here (fun s m => shown s (all _ m)) (kept x m)
  · obtain ⟨s, here, rfl⟩ := List.mem_map.1 m
    obtain ⟨i, d, read, isMade⟩ := isMade s here
    rcases clear s here with noOthers | ⟨clear, alone⟩
    · have again := isMade.isComplete.decode_of_others_eq_nil read noOthers []
      refine isTakenOnce_of_made read isMade ?_ (by simp [noOthers])
      exact (isMade.isComplete.exists_decode_iff read []).1 ⟨s, again⟩
    · exact isTakenOnce_of_made read isMade clear alone

/-- All signatures of an image that was read and signed are such as survive being written. -/
theorem isCarried_of_mem_appendAll {raw : Bytes} {added : List Signature}
    (found : ofFile path raw = .ok image)
    (isMade : ∀ s ∈ added, ∃ i d, i.certificate.IsRead ∧ Signature.Made i d s) :
    ∀ x ∈ (image.appendAll added).signatures.items, IsCarried x := by
  intro x m
  rw [appendAll_eq, List.mem_append] at m
  rcases m with m | m
  · obtain ⟨b, xs, stored, here, -⟩ := exists_storedOf_of_mem found m
    exact .stored stored here
  · obtain ⟨s, here, rfl⟩ := List.mem_map.1 m
    obtain ⟨i, d, read, isMade⟩ := isMade s here
    exact .made read isMade

/-- **The round trip.** An image that was loaded and can be digested, with any made signatures added,
is written, and the written file is loaded with its fields where they were, the same octets outside
them and the same digests, if headers can be read there and the whole fits in four octets.
It has as many signatures again exactly if of each entry one signature is stored, and then each comes
back with its octets. That is so if every signer that was read can be told of, what was kept
undecoded is an element (or stays foreign with its padding), and added signatures are not obscured. -/
theorem reload {w w₁ : World} {regions : List (Nat × Nat)} {added : List Signature}
    (found : load path w = (.ok image, w₁)) (valid : image.regions = .ok regions)
    (isMade : ∀ s ∈ added, ∃ i d, i.certificate.IsRead ∧ Signature.Made i d s)
    (small : image.data.length + (image.appendAll added).certificateTable.length < 2 ^ 32 - 2 ^ 17)
    (headers : HeadersStand (image.appendAll added)) :
    ∃ out, (image.appendAll added).toBytes = .ok out ∧
      (∀ path' v, v.files.read path' = .ok out →
        ((∃ again v', load path' v = (.ok again, v') ∧
            again.signatures.count = (image.appendAll added).signatures.count) ↔
          ∀ x ∈ (image.appendAll added).signatures.items, IsTakenOnce (padded x.der)) ∧
        ∀ again v', load path' v = (.ok again, v') →
          again.checksum = image.checksum ∧ again.entry = image.entry ∧
          again.data.length = image.data.length ∧
          (∀ n : Nat, n < image.checksum ∨ image.checksum + 4 ≤ n →
            n < image.entry ∨ image.entry + 8 ≤ n → again.data[n]? = image.data[n]?) ∧
          (∀ a, imageDigest a again.data again.checksum again.entry
            = imageDigest a image.data image.checksum image.entry) ∧
          (again.signatures.count = (image.appendAll added).signatures.count →
            List.Forall₂ ComesBackAs (image.appendAll added).signatures.items
              again.signatures.items)) ∧
      ((∀ s, .decoded s ∈ image.signatures.items → ∃ t, s.signer.subject.show = .ok t) →
        (∀ x ∈ image.signatures.items,
          (∃ s, x = .decoded s) ∨ IsElement x.der ∨ IsTakenOnce (padded x.der)) →
        (∀ s ∈ added, s.others = [] ∨ (¬ s.IsObscured ∧ ∀ c ∈ s.others,
          c.serial = s.signer.serial → c.issuer.whole = s.signer.issuer.whole → c = s.signer)) →
        ∀ x ∈ (image.appendAll added).signatures.items, IsTakenOnce (padded x.der)) := by
  obtain ⟨raw, -, found, -⟩ := exists_ofFile_of_load found
  obtain ⟨c, e, laid⟩ := isLaidOut_of_ofFile found
  unfold Image.regions at valid
  rw [laid.checksum, laid.entry] at valid
  obtain ⟨apart, inside⟩ := le_of_signableRegions valid
  have carried := isCarried_of_mem_appendAll found isMade
  have once := isTakenOnce_of_mem_appendAll found isMade
  have data : (image.appendAll added).data = image.data := by rw [appendAll_eq]
  have laid' : IsLaidOut (image.appendAll added) c e := by
    rw [appendAll_eq]
    exact ⟨laid.checksum, laid.entry, laid.fields, laid.aligned⟩
  generalize image.appendAll added = signed at *
  rw [← data] at small inside
  obtain ⟨h, accepted, -⟩ := headers.unsealed
  rw [laid'.entry, Int.toNat_natCast] at accepted
  obtain ⟨out, written⟩ :=
    exists_toBytes laid'.checksum laid'.entry apart inside small accepted
  have shape := isWrittenAs laid'.checksum laid'.entry apart written
  refine ⟨out, written, fun path' v read => ⟨?_, ?_⟩, once⟩
  · rw [← exists_ofFile_count_iff laid' inside shape (headers.sealed out written)]
    constructor
    · rintro ⟨again, v', ran, count⟩
      exact ⟨again, (exists_load_iff read).1 ⟨v', ran⟩, count⟩
    · rintro ⟨again, found, count⟩
      obtain ⟨v', ran⟩ := (exists_load_iff read).2 found
      exact ⟨again, v', ran, count⟩
  · intro again v' ran
    obtain ⟨-, xss, stored, shown⟩ :=
      (ofFile_written laid' inside shape).1 ((exists_load_iff read).1 ⟨v', ran⟩)
    have agree := shape.agreeOutside
    rw [data] at agree
    subst shown
    rw [laid.checksum, laid.entry, data]
    refine ⟨rfl, rfl, agree.length, ?_, agree.imageDigest_eq, ?_⟩
    · intro n here here'
      exact agree.octets n (by omega) (by omega)
    · intro count
      have each := (exists_ofFile_count_iff laid' inside shape (headers.sealed out written)).1
        ⟨_, (exists_load_iff read).1 ⟨v', ran⟩, count⟩
      exact forall₂_comesBackAs carried stored each

end

/-! ## An image that is written and loaded -/

/-- A short image without sections. -/
def shortImage : Bytes :=
  ofAscii "MZ" ++ zeros 58 ++ ofNatLE 4 64 ++ ofAscii "PE\x00\x00" ++ zeros 20 ++ ofNatLE 2 0x10b
    ++ zeros 90 ++ ofNatLE 4 5 ++ zeros 40

/-- The short image with a certificate table. -/
def shortImageWith (table : Bytes) : Bytes :=
  shortImage.take 216 ++ ofNatLE 4 224 ++ ofNatLE 4 table.length ++ table

/-- Surroundings with one file. -/
def surroundingsWith (b : Bytes) : World :=
  .initial ⟨[(["i"], .file ⟨b, 0o644, none⟩)], []⟩ [] fun _ _ _ => ⟨1, [], none⟩

/-- That file is read under its name. -/
theorem read_surroundingsWith (b : Bytes) : (surroundingsWith b).files.read "i" = .ok b := by
  have plain : FileSystem.IsPlain "i" := by
    decide +kernel
  exact FileSystem.read_of_isPlain (f := ⟨b, 0o644, none⟩) plain rfl rfl

/-- Whether an image without signatures, signed by the short key with a certificate, keeps to what the
round trip asks of it. -/
def stands (raw certificate : Bytes) : Bool :=
  match ofFile "i" raw, Certificate.ofDer certificate with
  | .ok image, .ok c =>
    match Signature.build (Signature.shortIdentity c) (.compute .sha256 []) Signature.noSurroundings with
    | (.ok s, _) =>
      let signed := image.appendAll [s]
      match image.regions, Headers.read (signed.unsealed signed.entry.toNat), signed.toBytes with
      | .ok _, .ok h, .ok out =>
        image.signatures.items = [] ∧ (Headers.read out).isOk ∧
          image.data.length + signed.certificateTable.length < 2 ^ 32 - 2 ^ 17 ∧
          ∀ r ∈ h.records, r.offset + r.octets.length ≤ image.data.length
      | _, _, _ => false
    | _ => false
  | _, _ => false

/-- An image and a certificate that pass the check can be read and used for a signature, and what the
round trip asks of them holds. -/
theorem exists_of_stands {raw certificate : Bytes} (h : stands raw certificate = true) :
    ∃ image c s w' regions out, ofFile "i" raw = .ok image ∧ c.IsRead ∧
      Signature.build (Signature.shortIdentity c) (.compute .sha256 []) Signature.noSurroundings
        = (.ok s, w') ∧
      image.regions = .ok regions ∧ (image.appendAll [s]).toBytes = .ok out ∧
      HeadersStand (image.appendAll [s]) ∧ image.signatures.items = [] ∧
      image.data.length + (image.appendAll [s]).certificateTable.length < 2 ^ 32 - 2 ^ 17 := by
  unfold stands at h
  split at h
  · rename_i image c found certificate'
    split at h
    · rename_i s w' built
      dsimp only at h
      split at h
      · rename_i regions headers out valid accepted written
        rw [decide_eq_true_eq] at h
        obtain ⟨unsigned, sealed, small, records⟩ := h
        refine ⟨image, c, s, w', regions, out, found, Certificate.isRead_of_ofDer certificate', built,
          valid, written, ⟨⟨headers, accepted, ?_⟩, fun out' written' => ?_⟩, unsigned, small⟩
        · rw [appendAll_eq]
          exact records
        · obtain rfl := Except.ok.inj (written.symm.trans written')
          rcases outcome : Headers.read out with p | h'
          · rw [outcome] at sealed
            cases sealed
          · exact ⟨h', rfl⟩
      · cases h
    · cases h
  · cases h

set_option maxRecDepth 100000 in
/-- The short image keeps to what the round trip asks of it. -/
theorem stands_shortImage : stands shortImage (Signature.shortCertificate 9) = true := by
  decide +kernel

/-- The short image is loaded, signed by the short key, written and loaded again with one signature. -/
theorem reload_shortImage : ∃ image s out w₁ again v',
    load "i" (surroundingsWith shortImage) = (.ok image, w₁) ∧
    (∃ c w', c.IsRead ∧ Signature.build (Signature.shortIdentity c) (.compute .sha256 [])
      Signature.noSurroundings = (.ok s, w')) ∧
    (image.appendAll [s]).toBytes = .ok out ∧ load "i" (surroundingsWith out) = (.ok again, v') ∧
    again.signatures.count = 1 ∧ List.Forall₂ ComesBackAs [.decoded s] again.signatures.items := by
  obtain ⟨image, c, s, w', regions, out, found, read, built, valid, written, headers, unsigned, small⟩ :=
    exists_of_stands stands_shortImage
  obtain ⟨w₁, ran⟩ := (exists_load_iff (read_surroundingsWith shortImage)).2 found
  have isMade : ∀ t ∈ [s], ∃ i d, i.certificate.IsRead ∧ Signature.Made i d t := by
    intro t m
    obtain rfl := List.mem_singleton.1 m
    exact ⟨_, _, read, .built built⟩
  have items : (image.appendAll [s]).signatures.items = [.decoded s] := by
    rw [appendAll_eq, unsigned]
    rfl
  obtain ⟨out', written', trip, once⟩ := reload ran valid isMade small headers
  obtain rfl := Except.ok.inj (written.symm.trans written')
  obtain ⟨counts, facts⟩ := trip "i" (surroundingsWith out) (read_surroundingsWith out)
  obtain ⟨again, v', ran', count⟩ := counts.2 (once (by simp [unsigned]) (by simp [unsigned])
    (by simpa using .inl (Signature.isComplete_of_build built).2))
  have same := (facts again v' ran').2.2.2.2.2 count
  have one : (image.appendAll [s]).signatures.count = 1 := by
    rw [Store.count, items]
    rfl
  rw [items] at same
  rw [one] at count
  exact ⟨image, s, out, w₁, again, v', ran, ⟨c, w', read, built⟩, written, ran', count, same⟩

end ImageSigning.Image
