import ImageSigning.Proofs.Image.Reload
import ImageSigning.Proofs.Signing.Steps

/-!
# Successive runs

Runs follow each other if each signs the image that the one before wrote. No run takes anything back:
outside the checksum and the directory entry all files say the same, so each of them has every digest
that was signed on the way, and the table of the last holds every signature that was made, in order.
Loading may store a signature twice, but never none of one that was made.

* **`Runs`** — runs that follow each other, from the first file to the last.
* **`Keeps`** — what runs keep of an image until the last signed image.
* **`IsSigned`** — the invariant: an image that was loaded and signed, and the file that it was
  written to.
* **`IsSigned.keeps`** — the step: what is kept of the image in the file is kept of the signed image.
* **`IsSigned.runs`** — any number of runs keep what a file says.
* **`Configuration.sign_holds`** — what a run that succeeds writes, and what is left of it after
  others.
-/

namespace ImageSigning

open Bytes CertificateTable Der Tlv

/-! ## Entries that are loaded again -/

namespace Image

/-- What the table entries of an image hold once it is written. -/
def entries (image : Image) : List Bytes := image.signatures.items.map fun x => padded x.der

/-- Appending a signature puts its padded octets behind the other entries. -/
theorem entries_append (image : Image) (x : StoredSignature) :
    (image.append x).entries = image.entries ++ [padded x.der] := by
  simp [entries, append, Store.append]

/-- Signatures that come back as they were leave the entries as they were. -/
theorem map_padded_eq {xs ys : List StoredSignature} (h : List.Forall₂ ComesBackAs xs ys) :
    (ys.map fun y => padded y.der) = xs.map fun x => padded x.der := by
  induction h with
  | nil => rfl
  | cons here _ ih =>
    obtain ⟨j, few, octets, -⟩ := here
    rw [List.map_cons, List.map_cons, ih, octets, padded_append_zeros few]

/-- Signatures that were made are among the entries again, in order. -/
theorem sublist_of_stored {contents : List Bytes} {xss : List (List StoredSignature)}
    {ours : List Signature} (h : List.Forall₂ (fun b xs => storedOf b = .ok xs) contents xss)
    (all : ∀ s ∈ ours, ∃ i d, i.certificate.IsRead ∧ Signature.Made i d s)
    (before : (ours.map fun s => padded s.der).Sublist contents) :
    (ours.map fun s => padded s.der).Sublist (xss.flatten.map fun x => padded x.der) := by
  induction h generalizing ours with
  | nil =>
    rw [List.sublist_nil.1 before]
    exact List.nil_sublist _
  | @cons b xs contents xss here _ ih =>
    rw [List.flatten_cons, List.map_append]
    rcases ours with _ | ⟨s, ours⟩
    · exact List.nil_sublist _
    · rw [List.map_cons] at before ⊢
      rcases List.cons_sublist_cons'.1 before with behind | ⟨same, behind⟩
      · exact (ih all behind).trans (List.sublist_append_right _ _)
      · obtain ⟨i, d, read, origin⟩ := all s (List.mem_cons_self ..)
        obtain ⟨x, m, octets⟩ := mem_of_storedOf_made read origin (same ▸ here)
        have first : [padded s.der].Sublist (xs.map fun x => padded x.der) := by
          rw [List.singleton_sublist, List.mem_map]
          exact ⟨x, m, by rw [octets]⟩
        exact first.append (ih (fun t n => all t (List.mem_cons_of_mem _ n)) behind)

end Image

/-! ## Runs that follow each other -/

/-- A run that signs an image in a file and writes it with its signatures to another. -/
def Signs (raw : Bytes) (r : SigningResult) (out : Bytes) : Prop :=
  ∃ (c : Configuration) (w w' : World) (path : String), c.sign w = (.ok r, w') ∧
    (c.get .detached).isSet = false ∧ w.files.read (c.get .image).display = .ok raw ∧
    c.outputPath = .text path ∧ w'.files.read (FileSystem.simplify path) = .ok out

/-- Runs that follow each other, each on what the one before wrote. -/
inductive Runs : Bytes → List SigningResult → Bytes → Prop
  | nil (raw : Bytes) : Runs raw [] raw
  | cons {raw mid out : Bytes} {r : SigningResult} {rs : List SigningResult}
      (first : Signs raw r mid) (rest : Runs mid rs out) : Runs raw (r :: rs) out

/-- A run of the step relation is a run of some configuration that is not detached. -/
theorem exists_hasSigned_of_signs {raw out : Bytes} {r : SigningResult} (h : Signs raw r out) :
    ∃ (c : Configuration) (image : Image),
      c.HasSigned raw image r out ∧ (c.get .detached).isSet = false := by
  obtain ⟨c, w, w', path, ran, combined, read, shown, there⟩ := h
  obtain ⟨raw', image, path', out', read', shown', there', signed⟩ :=
    Configuration.hasSigned_of_sign ran
  obtain rfl := Except.ok.inj (read.symm.trans read')
  obtain rfl := Value.text.inj (shown.symm.trans shown')
  obtain rfl := Except.ok.inj (there.symm.trans there')
  exact ⟨c, image, signed, combined⟩

/-! ## What is kept -/

/-- Each run finds as many signatures as the one before it left, the first as many as are given. -/
def IsUnbroken : Nat → List SigningResult → Prop
  | _, [] => True
  | n, r :: rs => r.index = n ∧ IsUnbroken r.count rs

/-- What runs keep of an image until the last signed image: its octets outside the fields, hence the
digests that were signed, and the signatures that were made, with their own behind them. Unbroken
runs keep all entries. -/
structure Keeps (k e : Nat) (image : Image) (rs : List SigningResult) (last : Image) : Prop where
  agree : Image.AgreeOutside k e last.data image.data
  origin : ∀ r ∈ rs, ∃ i, i.certificate.IsRead ∧ Signature.Made i r.digest r.signature
  digest : ∀ r ∈ rs, imageDigest r.digest.algorithm image.data k e = .ok r.digest
  sublist : ∀ ours : List Signature,
    (∀ s ∈ ours, ∃ i d, i.certificate.IsRead ∧ Signature.Made i d s) →
    (ours.map fun s => padded s.der).Sublist image.entries →
    ((ours ++ rs.map (·.signature)).map fun s => padded s.der).Sublist last.entries
  entries : IsUnbroken image.signatures.count rs →
    last.entries = image.entries ++ rs.map fun r => padded r.signature.der

namespace Keeps

variable {k e : Nat} {image next last : Image} {r : SigningResult} {rs : List SigningResult}

/-- As long as there was no run, the image is what it was. -/
theorem refl (k e : Nat) (image : Image) : Keeps k e image [] image where
  agree := .refl k e _
  origin := by simp
  digest := by simp
  sublist := by
    intro ours _ before
    rw [List.map_nil, List.append_nil]
    exact before
  entries := by simp

/-- What later runs keep is kept with one run more at the beginning. -/
theorem cons (first : Keeps k e image [r] next) (count : r.count = next.signatures.count)
    (rest : Keeps k e next rs last) : Keeps k e image (r :: rs) last where
  agree := rest.agree.trans first.agree
  origin := List.forall_mem_cons.2 ⟨first.origin r (List.mem_singleton_self r), rest.origin⟩
  digest := by
    refine List.forall_mem_cons.2 ⟨first.digest r (List.mem_singleton_self r), fun t m => ?_⟩
    rw [← first.agree.imageDigest_eq]
    exact rest.digest t m
  sublist := by
    intro ours all before
    obtain ⟨i, read, origin⟩ := first.origin r (List.mem_singleton_self r)
    have all' : ∀ s ∈ ours ++ [r.signature], ∃ i d, i.certificate.IsRead ∧
        Signature.Made i d s := by
      intro s m
      rcases List.mem_append.1 m with old | new
      · exact all s old
      · obtain rfl := List.mem_singleton.1 new
        exact ⟨i, r.digest, read, origin⟩
    have more := rest.sublist (ours ++ [r.signature]) all' (first.sublist ours all before)
    rw [List.append_assoc] at more
    exact more
  entries := by
    intro unbroken
    obtain ⟨index, unbroken⟩ := unbroken
    rw [rest.entries (count ▸ unbroken), first.entries ⟨index, trivial⟩]
    simp

/-- The signatures of the runs are among the entries of the last signed image, in order. -/
theorem sublist_entries (h : Keeps k e image rs last) :
    (rs.map fun r => padded r.signature.der).Sublist last.entries := by
  have all := h.sublist [] (by simp) (List.nil_sublist _)
  rw [List.nil_append, List.map_map] at all
  exact all

end Keeps

/-! ## The invariant and the step -/

/-- An image that was loaded and signed, with its fields at the given places, and the file that it was
written to. -/
structure IsSigned (signed : Image) (k e : Nat) (out : Bytes) : Prop where
  laid : signed.IsLaidOut k e
  apart : k + 4 ≤ e
  inside : e + 8 ≤ signed.data.length
  written : signed.IsWrittenAs k e out
  carried : ∀ x ∈ signed.signatures.items, Image.IsCarried x

section
variable {c : Configuration} {raw out : Bytes} {image : Image} {r : SigningResult} {k e : Nat}

/-- Every run that succeeds signs and writes an image so. -/
theorem Configuration.HasSigned.isSigned (h : c.HasSigned raw image r out)
    (combined : (c.get .detached).isSet = false) (laid : image.IsLaidOut k e) :
    IsSigned (image.append (.decoded r.signature)) k e out := by
  obtain ⟨i, read, isMade⟩ := h.signature
  obtain ⟨apart, inside⟩ := laid.le_of_fieldsInside (Image.imageDigest_eq_ok.1 h.digest).1
  refine ⟨⟨laid.checksum, laid.entry, laid.fields, laid.aligned⟩, apart, inside, ?_, ?_⟩
  · exact Image.isWrittenAs laid.checksum laid.entry apart (h.combined combined)
  · intro x m
    rcases List.mem_append.1 m with old | new
    · obtain ⟨b, xs, stored, here, -⟩ := Image.exists_storedOf_of_mem h.loaded old
      exact .stored stored here
    · obtain rfl := List.mem_singleton.1 new
      exact .made read isMade

/-- The count that a run reports is that of the image with the signature appended. -/
theorem Configuration.HasSigned.count_eq (h : c.HasSigned raw image r out) :
    r.count = (image.append (.decoded r.signature)).signatures.count :=
  h.count.trans (Store.count_append ..).symm

/-- A run keeps what it loaded. -/
theorem Configuration.HasSigned.keeps (h : c.HasSigned raw image r out)
    (laid : image.IsLaidOut k e) :
    Keeps k e image [r] (image.append (.decoded r.signature)) where
  agree := .refl k e _
  origin := by
    intro t m
    obtain rfl := List.mem_singleton.1 m
    exact h.signature
  digest := by
    intro t m
    obtain rfl := List.mem_singleton.1 m
    rw [← laid.checksum, ← laid.entry]
    exact h.digest
  sublist := by
    intro ours _ before
    rw [Image.entries_append, List.map_append]
    exact before.append (List.Sublist.refl _)
  entries := fun _ => image.entries_append _

end

namespace IsSigned

variable {c : Configuration} {signed image last : Image} {out mid final : Bytes} {path : String}
  {r : SigningResult} {rs : List SigningResult} {k e : Nat}

/-- The table in the file is read as the entries. -/
theorem read_table (h : IsSigned signed k e out) :
    CertificateTable.read (out.drop signed.data.length) = ⟨.ok signed.entries, []⟩ := by
  rw [h.written.table, Image.certificateTable,
    read_write (Image.length_certificateTable_lt h.written), List.map_map]
  rfl

/-- The directory says that the table is behind the image and ends the file. -/
theorem place (h : IsSigned signed k e out) (filled : signed.entries ≠ []) :
    numberIn out e 4 = signed.data.length ∧
      signed.data.length + numberIn out (e + 4) 4 = out.length := by
  rcases h.written.place_cases with ⟨empty, -, -⟩ | ⟨-, address, extent⟩
  · rw [Image.certificateTable, write_eq_nil_iff, List.map_eq_nil_iff] at empty
    exact (filled (by rw [Image.entries, empty, List.map_nil])).elim
  · exact ⟨address, by rw [extent, h.written.length]⟩

/-- The image in the file is laid out as it was. -/
theorem isLaidOut (h : IsSigned signed k e out) (found : Image.ofFile path out = .ok image) :
    image.IsLaidOut k e := by
  obtain ⟨-, xss, -, shown⟩ := (Image.ofFile_written h.laid h.inside h.written).1 found
  obtain ⟨k', e', laid⟩ := Image.isLaidOut_of_ofFile found
  obtain rfl : k' = k := Int.ofNat.inj (laid.checksum.symm.trans (congrArg Image.checksum shown))
  obtain rfl : e' = e := Int.ofNat.inj (laid.entry.symm.trans (congrArg Image.entry shown))
  exact laid

/-- What runs keep of the image in the file, they keep of the image that was written to it. -/
theorem keeps (h : IsSigned signed k e out) (found : Image.ofFile path out = .ok image)
    (kept : Keeps k e image (r :: rs) last) (index : r.index = image.signatures.count) :
    Keeps k e signed (r :: rs) last := by
  obtain ⟨-, xss, stored, rfl⟩ := (Image.ofFile_written h.laid h.inside h.written).1 found
  have agree := h.written.agreeOutside
  exact {
    agree := kept.agree.trans agree
    origin := kept.origin
    digest := by
      intro t m
      rw [← agree.imageDigest_eq]
      exact kept.digest t m
    sublist := fun ours all before =>
      kept.sublist ours all (Image.sublist_of_stored (Outcome.mapM_eq_ok_iff.1 stored) all before)
    entries := by
      rintro ⟨found, unbroken⟩
      have once : ∀ b ∈ signed.entries, Image.IsTakenOnce b := by
        rw [Image.forall_isTakenOnce_iff]
        refine ⟨xss, stored, ?_⟩
        rw [Image.entries, List.length_map]
        exact index.symm.trans found
      have back := Image.forall₂_comesBackAs h.carried stored (List.forall_mem_map.1 once)
      rw [kept.entries ⟨index, unbroken⟩]
      exact congrArg (· ++ _) (Image.map_padded_eq back) }

/-- Any number of runs keep what a file says. -/
theorem runs (h : IsSigned signed k e out) (after : Runs out rs final) :
    ∃ last, IsSigned last k e final ∧ Keeps k e signed rs last := by
  induction after generalizing signed with
  | nil => exact ⟨signed, h, .refl k e signed⟩
  | cons first rest ih =>
    obtain ⟨c, image, ran, combined⟩ := exists_hasSigned_of_signs first
    have laid := h.isLaidOut ran.loaded
    obtain ⟨last, state, kept⟩ := ih (ran.isSigned combined laid)
    have all := (ran.keeps laid).cons ran.count_eq kept
    exact ⟨last, state, h.keeps ran.loaded all ran.index⟩

end IsSigned

/-! ## What the files say -/

/-- Whether the signature of a run says the digest that was signed, and reads back so from its octets
with any padding if it is not obscured. -/
def SigningResult.IsEmbedded (r : SigningResult) : Prop :=
  r.signature.digest = r.digest ∧ ∀ padding,
    ((∃ t, Signature.decode (r.signature.der ++ padding) = .ok t) ↔ ¬ r.signature.IsObscured) ∧
    ∀ t, Signature.decode (r.signature.der ++ padding) = .ok t → t.digest = r.digest

/-- A result with a signature that was made for its digest is an embedded one. -/
theorem SigningResult.isEmbedded_of_made {i : Identity} {r : SigningResult}
    (read : i.certificate.IsRead) (isMade : Signature.Made i r.digest r.signature) :
    r.IsEmbedded := by
  have complete := isMade.isComplete
  refine ⟨complete.digest, fun padding => ⟨complete.exists_decode_iff read padding, ?_⟩⟩
  intro t found
  obtain ⟨c, -, -, rfl⟩ := (complete.decode_eq_ok_iff read padding).1 found
  exact complete.digest

/-- What a file says of an image and of the runs that signed it into the file. -/
structure Holds (image : Image) (rs : List SigningResult) (file : Bytes) : Prop where
  /-- The file begins with the image, but for the fields. -/
  agree : Image.AgreeOutside image.checksum.toNat image.entry.toNat
    (file.take image.data.length) image.data
  /-- The directory says where the table is: behind the image. -/
  place : numberIn file image.entry.toNat 4 = image.data.length ∧
    image.data.length + numberIn file (image.entry.toNat + 4) 4 = file.length
  /-- That is where the file is split, if its headers can be read. -/
  split : ∀ path parts, Image.split path file = .ok parts ↔ (∃ h, Headers.read file = .ok h) ∧
    parts = ⟨file.take image.data.length, file.drop image.data.length, image.checksum.toNat,
      image.entry.toNat⟩
  /-- The table holds the signatures that were made, in order. If no run found more signatures than
  the one before it left, they are all that is there besides the signatures of the image. -/
  entries : ∃ contents,
    CertificateTable.read (file.drop image.data.length) = ⟨.ok contents, []⟩ ∧
    (rs.map fun r => padded r.signature.der).Sublist contents ∧
    (IsUnbroken image.signatures.count rs →
      contents = image.entries ++ rs.map fun r => padded r.signature.der)
  /-- The file has every digest that was signed. -/
  digest : ∀ r ∈ rs, imageDigest r.digest.algorithm (file.take image.data.length) image.checksum
    image.entry = .ok r.digest
  /-- So has the image that is loaded from the file. -/
  loaded : ∀ path v again v', v.files.read path = .ok file → Image.load path v = (.ok again, v') →
    ∀ r ∈ rs, imageDigest r.digest.algorithm again.data again.checksum again.entry = .ok r.digest
  /-- Every signature says the digest that was signed. -/
  embedded : ∀ r ∈ rs, r.IsEmbedded

/-- What is kept of every run is what the file holds of them in the end. -/
theorem Keeps.holds {k e : Nat} {image last : Image} {rs : List SigningResult} {file : Bytes}
    (kept : Keeps k e image rs last) (laid : image.IsLaidOut k e) (state : IsSigned last k e file)
    (nonempty : rs ≠ []) : Holds image rs file := by
  have size := kept.agree.length
  have agree := state.written.agreeOutside.trans kept.agree
  have filled : last.entries ≠ [] := fun empty =>
    nonempty (List.map_eq_nil_iff.1 (List.sublist_nil.1 (empty ▸ kept.sublist_entries)))
  have place := state.place filled
  have table := state.read_table
  have digest : ∀ r ∈ rs, imageDigest r.digest.algorithm (file.take last.data.length) k e
      = .ok r.digest := by
    intro r m
    rw [agree.imageDigest_eq]
    exact kept.digest r m
  have split {path : String} {parts : Image.Split} :=
    @Image.split_written last k e file path state.laid state.inside state.written parts
  rw [← state.written.table] at split
  have checksum : image.checksum.toNat = k := by rw [laid.checksum, Int.toNat_natCast]
  have entry : image.entry.toNat = e := by rw [laid.entry, Int.toNat_natCast]
  rw [size] at agree place table digest
  exact {
    agree := by
      rw [checksum, entry]
      exact agree
    place := by
      rw [entry]
      exact place
    split := fun path parts => by
      rw [checksum, entry, ← size]
      exact split
    entries := ⟨last.entries, table, kept.sublist_entries, kept.entries⟩
    digest := by
      intro r m
      rw [laid.checksum, laid.entry]
      exact digest r m
    loaded := by
      intro path v again v' read ran r m
      have found := (Image.exists_load_iff read).1 ⟨v', ran⟩
      obtain ⟨-, xss, -, rfl⟩ :=
        (Image.ofFile_written state.laid state.inside state.written).1 found
      dsimp only
      rw [size]
      exact digest r m
    embedded := by
      intro r m
      obtain ⟨i, read, isMade⟩ := kept.origin r m
      exact SigningResult.isEmbedded_of_made read isMade }

namespace Configuration

/-- **A run and those after it.** A run that succeeds loaded an image and signed its digest: the new
signature has the number of signatures that there were, and says the digest. A signature by itself is
written as its octets. Otherwise the written file, and every file that further runs write, begins with
the image, has the digests that were signed, and holds the signatures that were made in order. The
signatures read back with their digests except where they are obscured. -/
theorem sign_holds {c : Configuration} {r : SigningResult} {w w' : World}
    (ran : c.sign w = (.ok r, w')) : ∃ image w₁ path out,
      Image.load (c.get .image).display w = (.ok image, w₁) ∧
      c.digestAlgorithm = .ok r.digest.algorithm ∧
      imageDigest r.digest.algorithm image.data image.checksum image.entry = .ok r.digest ∧
      r.index = image.signatures.count ∧ r.count = image.signatures.count + 1 ∧ r.IsEmbedded ∧
      c.outputPath = .text path ∧ w'.files.read (FileSystem.simplify path) = .ok out ∧
      ((c.get .detached).isSet = true → out = r.signature.der) ∧
      ((c.get .detached).isSet = false →
        ∀ rs final, Runs out rs final → Holds image (r :: rs) final) := by
  obtain ⟨raw, image, path, out, read, shown, there, signed⟩ := hasSigned_of_sign ran
  obtain ⟨w₁, loaded⟩ := (Image.exists_load_iff read).2 signed.loaded
  obtain ⟨i, certificate, isMade⟩ := signed.signature
  refine ⟨image, w₁, path, out, loaded, signed.algorithm, signed.digest, signed.index, signed.count,
    SigningResult.isEmbedded_of_made certificate isMade, shown, there, signed.detached, ?_⟩
  intro combined rs final runs
  obtain ⟨k, e, laid⟩ := Image.isLaidOut_of_ofFile signed.loaded
  obtain ⟨last, state, kept⟩ := (signed.isSigned combined laid).runs runs
  exact ((signed.keeps laid).cons signed.count_eq kept).holds laid state (List.cons_ne_nil _ _)

/-! ## Two runs -/

/-- The short key with its primes and exponents. -/
def shortPrivateKey : Bytes :=
  let p := 0xe9a24bd645d6438e3a7d1f7ba2ff9afba460351f26e2be514322d97ef0f79257
  let q := 0xc041c98a536a44a6b56d1a7b023e501a6cf15da8f6b6270faaa133a1ca6a6e23
  let c := 0x8fc5b2376bd9da96e013dab9cd360328ed0a478d889cfe92062fef843b3919aa
  let d := Signature.shortKey.2
  Der.sequence (([0, Signature.shortKey.1, 65537, d, p, q, d % (p - 1), d % (q - 1), c]
    : List Nat).map fun n => integer n)

/-- Files with the short image, the short key and its certificate. -/
def shortSurroundings : World :=
  .initial ⟨[(["i"], .file ⟨Image.shortImage, 0o644, none⟩),
    (["k"], .file ⟨shortPrivateKey, 0o644, none⟩),
    (["c"], .file ⟨Signature.shortCertificate 9, 0o644, none⟩)], []⟩ [] fun _ _ _ => ⟨1, [], none⟩

/-- Signs an image with the short key. -/
def shortRun (image output : String) : Configuration :=
  [(Setting.image, image), (.output, output), (.key, "k"), (.keyFormat, "DER"),
    (.certificate, "c")].foldl (fun c (s, v) => c.set s (.text v)) usual

/-- Whether two runs succeed, the second where the first ends, and add the first two signatures. -/
def signsTwice (first second : Configuration) (w : World) : Bool :=
  match first.sign w with
  | (.ok r, w₁) =>
    match second.sign w₁ with
    | (.ok s, _) => r.index = 0 ∧ s.index = 1
    | _ => false
  | _ => false

/-- What the check for two runs has found are two runs that succeed, one after the other. -/
theorem exists_sign_of_signsTwice {first second : Configuration} {w : World}
    (h : signsTwice first second w = true) : ∃ r s w₁ w₂, first.sign w = (.ok r, w₁) ∧
      second.sign w₁ = (.ok s, w₂) ∧ r.index = 0 ∧ s.index = 1 := by
  unfold signsTwice at h
  split at h
  · rename_i r w₁ ran
    split at h
    · rename_i s w₂ ran'
      rw [decide_eq_true_eq] at h
      exact ⟨r, s, w₁, w₂, ran, ran', h⟩
    · cases h
  · cases h

set_option maxRecDepth 100000 in
/-- The short image can be signed twice. -/
theorem signsTwice_shortRun :
    signsTwice (shortRun "i" "o") (shortRun "o" "p") shortSurroundings = true := by decide +kernel

/-- The paths that the two short runs write to are in their simplest form. -/
theorem shortRun_paths : (shortRun "i" "o").outputPath = .text "o" ∧
    (shortRun "o" "p").outputPath = .text "p" ∧ FileSystem.simplify "o" = "o" ∧
    FileSystem.simplify "p" = "p" :=
  ⟨rfl, rfl, by decide +kernel, by decide +kernel⟩

/-- The short image is signed twice, and the second file holds both signatures and nothing else. -/
theorem sign_holds_shortRun : ∃ r s w₁ w₂ image file,
    (shortRun "i" "o").sign shortSurroundings = (.ok r, w₁) ∧
    (shortRun "o" "p").sign w₁ = (.ok s, w₂) ∧ w₂.files.read "p" = .ok file ∧
    Holds image [r, s] file ∧ IsUnbroken image.signatures.count [r, s] := by
  obtain ⟨r, s, w₁, w₂, ran, ran', first, second⟩ := exists_sign_of_signsTwice signsTwice_shortRun
  obtain ⟨shown, shown', plain, plain'⟩ := shortRun_paths
  obtain ⟨image, -, path, out, -, -, -, index, count, -, named, there, -, after⟩ := sign_holds ran
  obtain rfl := Value.text.inj (shown.symm.trans named)
  obtain ⟨raw, -, path', file, read, named', there', -⟩ := hasSigned_of_sign ran'
  obtain rfl := Value.text.inj (shown'.symm.trans named')
  rw [plain] at there
  rw [plain'] at there'
  -- the second run reads what the first one wrote
  obtain rfl : raw = out := Except.ok.inj (read.symm.trans there)
  have signs : Signs raw s file := by
    refine ⟨_, w₁, w₂, "p", ran', rfl, read, shown', ?_⟩
    rw [plain']
    exact there'
  refine ⟨r, s, w₁, w₂, image, file, ran, ran', there', ?_, index, ?_, trivial⟩
  · exact after rfl [s] file (.cons signs (.nil file))
  · omega

end Configuration

end ImageSigning
