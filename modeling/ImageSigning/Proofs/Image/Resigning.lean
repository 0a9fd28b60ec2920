import ImageSigning.Proofs.Image.Reload

/-!
# What becomes of the entries of a table

An image that is signed again is written with a table of its own: entries for the signatures that were
loaded come first, in the order of the table that was loaded, entries for new signatures behind them.
Every entry is written with the one revision that there is a reason to write. The content of an entry
that was loaded is written up to the end of its leading element, whose end is looked for behind one
identifier octet; where there is no such end all of it is written. So nothing but what follows the
element can be lost, and nothing at all where only zeros follow it.

* **`CarriesOn`** — what a written content has of a content that was loaded.
* **`carriesOn_of_storedOf`** — whatever is stored of a content is written so.
* **`table_survives`** — the written table, for every image that was loaded and all that is added.
* **`not_kept_oldImage`** — the revision is not carried on, nor is what follows an element.
-/

namespace ImageSigning.Image

open Bytes CertificateTable Der Tlv StoredSignature

/-! ## One content -/

/-- Octets that differ in zeros at their ends only. -/
def SameUpToZeros (a b : Bytes) : Prop := ∃ m n, a ++ zeros m = b ++ zeros n

/-- Octets whose end is found: their tag has one octet, or they hold a signature that can be told of. -/
def HasPlainEnd (b : Bytes) : Prop :=
  HasShortTag b ∨ ∃ s t, Signature.decode b = .ok s ∧ s.signer.subject.show = .ok t

/-- What a written content has of a content that was loaded. -/
structure CarriesOn (b written : Bytes) : Prop where
  /-- It is a beginning of it, filled up with less than a unit of zeros. -/
  beginning : ∃ kept rest k, b = kept ++ rest ∧ written = kept ++ zeros k ∧ k < 8
  /-- It has all of the leading element. -/
  element : HasPlainEnd b → ∀ e rest, read? .basic b = some (e, rest) → e.whole <+: written
  /-- It has all octets but zeros at the end, if there are only zeros behind the leading element, or
  no such element. -/
  octets : HasPlainEnd b →
    (∀ e rest, read? .basic b = some (e, rest) → ∃ n, rest = zeros n) → SameUpToZeros b written

/-- All of a content is carried on. -/
theorem carriesOn_padded (b : Bytes) : CarriesOn b (padded b) := by
  refine ⟨⟨b, [], _, (List.append_nil b).symm, rfl, paddingAfter_lt _⟩, ?_, ?_⟩
  · intro _ e rest read
    obtain ⟨split, -⟩ := denotes_of_read? read
    refine ⟨rest ++ zeros (paddingAfter (headerSize + b.length)), ?_⟩
    rw [padded, ← List.append_assoc, ← split]
  · intro _ _
    exact ⟨_, 0, (List.append_nil _).symm⟩

/-- The leading element of a content is carried on. -/
theorem carriesOn_whole {b rest : Bytes} {e : Tlv} (read : read? .basic b = some (e, rest)) :
    CarriesOn b (padded e.whole) := by
  obtain ⟨split, -⟩ := denotes_of_read? read
  refine ⟨⟨e.whole, rest, _, split, rfl, paddingAfter_lt _⟩, ?_, ?_⟩
  · intro _ f rest' read'
    obtain ⟨rfl, -⟩ := Prod.mk.inj (Option.some.inj (read'.symm.trans read))
    exact List.prefix_append _ _
  · intro _ readsZeros
    obtain ⟨n, rfl⟩ := readsZeros e rest read
    refine ⟨paddingAfter (headerSize + e.whole.length), n, ?_⟩
    nth_rewrite 1 [split]
    rw [padded, List.append_assoc, List.append_assoc]
    simp [zeros, Nat.add_comm]

/-- What is kept of a content is carried on. -/
theorem carriesOn_keep {b : Bytes} (plain : HasPlainEnd b → HasShortTag b) (reason : String) :
    CarriesOn b (padded (keep b reason).der) := by
  by_cases tag : HasShortTag b
  · rcases extent : elementLength? b with _ | n
    · have kept : (keep b reason).der = b := by
        unfold keep
        rw [extent]
        rfl
      rw [kept]
      exact carriesOn_padded b
    · obtain ⟨e, rest, read⟩ := exists_read?_of_elementLength? tag extent
      have kept : (keep b reason).der = e.whole := by
        obtain ⟨split, -⟩ := denotes_of_read? read
        unfold keep
        rw [elementLength?_of_read? tag read]
        change b.take e.whole.length = e.whole
        nth_rewrite 1 [split]
        exact List.take_left ..
      rw [kept]
      exact carriesOn_whole read
  · obtain ⟨rest, split, -⟩ := keep_spec b reason
    refine ⟨⟨_, rest, _, split, rfl, paddingAfter_lt _⟩, ?_, ?_⟩
    · intro stops
      exact (tag (plain stops)).elim
    · intro stops
      exact (tag (plain stops)).elim

/-- Whatever is stored of a content is carried on. -/
theorem carriesOn_of_storedOf {b : Bytes} {xs : List StoredSignature} (h : storedOf b = .ok xs) :
    ∀ x ∈ xs, CarriesOn b (padded x.der) := by
  have decoded {s : Signature} (found : Signature.decode b = .ok s) :
      CarriesOn b (padded (StoredSignature.decoded s).der) := by
    obtain ⟨e, rest, read, whole⟩ := Signature.exists_read?_of_decode found
    have carried := carriesOn_whole read
    rwa [whole] at carried
  intro x m
  rcases storedOf_eq_ok h with
    ⟨p, failed, -, rfl⟩ | ⟨s, t, found, -, rfl⟩ | ⟨s, q, found, unshown, rfl⟩
  · obtain rfl := List.mem_singleton.1 m
    refine carriesOn_keep (fun stops => ?_) _
    rcases stops with tag | ⟨s, t, found, -⟩
    · exact tag
    · rw [failed] at found
      cases found
  · obtain rfl := List.mem_singleton.1 m
    exact decoded found
  · rcases List.mem_cons.1 m with rfl | m
    · exact decoded found
    · obtain rfl := List.mem_singleton.1 m
      refine carriesOn_keep (fun stops => ?_) _
      rcases stops with tag | ⟨s', t, found', shown⟩
      · exact tag
      · obtain rfl := Except.ok.inj (found.symm.trans found')
        rw [unshown] at shown
        cases shown

/-! ## The table -/

/-- What is written of the entries of a table: of each one something, of most just one. -/
def CarryOn (contents : List Bytes) (groups : List (List Bytes)) : Prop :=
  List.Forall₂ (fun b ys => ys ≠ [] ∧ (ys.length = 1 ↔ IsTakenOnce b) ∧ ∀ y ∈ ys, CarriesOn b y)
    contents groups

/-- What is stored of the contents of a table is carried on, entry by entry. -/
theorem carryOn_of_stored {contents : List Bytes} {xss : List (List StoredSignature)}
    (h : List.Forall₂ (fun b xs => storedOf b = .ok xs) contents xss) :
    CarryOn contents (xss.map fun xs => xs.map fun x => padded x.der) := by
  unfold CarryOn
  rw [List.forall₂_map_right_iff]
  refine h.imp fun b xs here => ⟨?_, ?_, ?_⟩
  · intro empty
    exact ne_nil_of_storedOf here (List.map_eq_nil_iff.1 empty)
  · rw [List.length_map, List.length_eq_one_iff, isTakenOnce_iff]
    constructor
    · rintro ⟨x, rfl⟩
      exact ⟨x, here⟩
    · rintro ⟨x, here'⟩
      exact ⟨x, Except.ok.inj (here.symm.trans here')⟩
  · exact List.forall_mem_map.2 (carriesOn_of_storedOf here)

/-- Where one signature is stored of each entry, the written entries carry on the entries one by one. -/
theorem CarryOn.forall₂ {contents : List Bytes} {groups : List (List Bytes)}
    (h : CarryOn contents groups) (once : ∀ b ∈ contents, IsTakenOnce b) :
    List.Forall₂ CarriesOn contents groups.flatten := by
  unfold CarryOn at h
  induction h with
  | nil => exact .nil
  | @cons b ys contents groups here _ ih =>
    obtain ⟨-, single, carried⟩ := here
    obtain ⟨y, rfl⟩ := List.length_eq_one_iff.1 (single.2 (once b (List.mem_cons_self ..)))
    have first : CarriesOn b y := carried y (List.mem_singleton_self y)
    exact .cons first (ih fun c m => once c (List.mem_cons_of_mem _ m))

/-- What the table of an image with signatures added is read as. -/
theorem read_table_of_toBytes {path : String} {raw out : Bytes} {image : Image}
    (found : ofFile path raw = .ok image) (added : List Signature)
    (written : (image.appendAll added).toBytes = .ok out) :
    CertificateTable.read (out.drop image.data.length)
      = ⟨.ok (image.signatures.items.map (fun x => padded x.der)
          ++ added.map fun s => padded s.der), []⟩ := by
  obtain ⟨c, e, laid⟩ := isLaidOut_of_ofFile found
  have apart : c + 4 ≤ e := by
    have behind := laid.fields.entry_ge
    omega
  have checksum : (image.appendAll added).checksum = c := by
    rw [appendAll_eq]
    exact laid.checksum
  have entry : (image.appendAll added).entry = e := by
    rw [appendAll_eq]
    exact laid.entry
  have data : (image.appendAll added).data = image.data := by rw [appendAll_eq]
  have shape := isWrittenAs checksum entry apart written
  rw [← data, shape.table, certificateTable, read_write (length_certificateTable_lt shape),
    appendAll_eq, List.map_map, List.map_append, List.map_map]
  rfl

/-! ## Tables that were loaded -/

/-- **What is left of a table.** An image that was loaded has a table that could be read, and of each
of its entries, in order, something is carried on, of just one entry where one signature was stored of
it. The table of the image, with whatever is added, that a written file holds consists of these and of
the signatures that were added, all under the same revision. -/
theorem table_survives {path : String} {w w₁ : World} {image : Image}
    (found : load path w = (.ok image, w₁)) (added : List Signature) :
    ∃ raw parts contents groups, w.files.read path = .ok raw ∧ split path raw = .ok parts ∧
      (CertificateTable.read parts.table).contents = .ok contents ∧ CarryOn contents groups ∧
      ((∀ b ∈ contents, IsTakenOnce b) → List.Forall₂ CarriesOn contents groups.flatten) ∧
      ∀ out, (image.appendAll added).toBytes = .ok out →
        CertificateTable.read (out.drop image.data.length)
          = ⟨.ok (groups.flatten ++ added.map fun s => padded s.der), []⟩ := by
  obtain ⟨raw, read, found, -⟩ := exists_ofFile_of_load found
  have written : ∀ out, (image.appendAll added).toBytes = .ok out → _ :=
    fun _ => read_table_of_toBytes found added
  unfold ofFile at found
  obtain ⟨parts, split, found⟩ := Outcome.bind_eq_ok.1 found
  obtain ⟨contents, entries, found⟩ := Outcome.bind_eq_ok.1 found
  obtain ⟨xss, stored, found⟩ := Outcome.bind_eq_ok.1 found
  obtain rfl := Outcome.pure_eq_ok.1 found
  have carried := carryOn_of_stored (Outcome.mapM_eq_ok_iff.1 stored)
  refine ⟨raw, parts, contents, _, read, Outcome.mapError_eq_ok.1 split,
    Outcome.mapError_eq_ok.1 entries, carried, carried.forall₂, fun out h => ?_⟩
  rw [written out h, List.map_flatten]


/-- A table with one entry, of an old revision, and in it one octet that no element has. -/
def oldTable : Bytes :=
  ofNatLE 4 16 ++ ofNatLE 2 0x100 ++ ofNatLE 2 2 ++ [0x30, 0, 1, 0, 0, 0, 0, 0]

/-- The short image with that table. -/
def oldImage : Bytes := shortImageWith oldTable

/-- The image that is loaded. -/
def oldLoaded : Image where
  path := "i"
  data := oldImage.take 224
  checksum := 152
  entry := 216
  signatures := ⟨[.undecoded [0x30, 0] "Malformed signature structure: no typed content"]⟩

/-- The image of the example is split into its data and its table. -/
theorem split_oldImage :
    split "i" oldImage = .ok ⟨oldImage.take 224, oldTable, 152, 216⟩ := by
  decide +kernel

/-- The table has one entry, with an odd revision. -/
theorem read_oldTable :
    CertificateTable.read oldTable = ⟨.ok [[0x30, 0, 1, 0, 0, 0, 0, 0]], [(0, 0x100)]⟩ := by
  rfl

/-- The image is read with that entry as it is. -/
theorem ofFile_oldImage : ofFile "i" oldImage = .ok oldLoaded := by
  decide +kernel

/-- The old image is written again with the usual revision and without the octet behind the signature.
-/
theorem exists_toBytes_oldLoaded : ∃ out, oldLoaded.toBytes = .ok out ∧
    numberIn out 228 2 = 0x200 ∧
    CertificateTable.read (out.drop oldLoaded.data.length)
      = ⟨.ok [[0x30, 0, 0, 0, 0, 0, 0, 0]], []⟩ := by
  have octets : oldLoaded.toBytes.toOption.map (fun out => (numberIn out 228 2, out.drop 224))
      = some (0x200, CertificateTable.entry [0x30, 0]) := by decide +kernel
  rcases written : oldLoaded.toBytes with f | out
  · rw [written] at octets
    cases octets
  · rw [written] at octets
    obtain ⟨revision, table⟩ := Prod.mk.inj (Option.some.inj octets)
    refine ⟨out, rfl, revision, ?_⟩
    change CertificateTable.read (out.drop 224) = _
    rw [table]
    rfl

/-- The old image is loaded where it is the file that is there. -/
theorem load_oldImage : ∃ w₁, load "i" (surroundingsWith oldImage) = (.ok oldLoaded, w₁) :=
  (exists_load_iff (read_surroundingsWith oldImage)).2 ofFile_oldImage

/-- The entry of the old table is written with its element alone. -/
theorem table_survives_oldImage : ∃ out groups, oldLoaded.toBytes = .ok out ∧
    CarryOn [[0x30, 0, 1, 0, 0, 0, 0, 0]] groups ∧
    CertificateTable.read (out.drop oldLoaded.data.length) = ⟨.ok groups.flatten, []⟩ := by
  obtain ⟨w₁, ran⟩ := load_oldImage
  obtain ⟨out, written, -, -⟩ := exists_toBytes_oldLoaded
  obtain ⟨raw, parts, contents, groups, read, split, entries, carried, -, table⟩ :=
    table_survives ran []
  obtain rfl := Except.ok.inj (read.symm.trans (read_surroundingsWith oldImage))
  obtain rfl := Except.ok.inj (split.symm.trans split_oldImage)
  rw [read_oldTable] at entries
  obtain rfl := Except.ok.inj entries
  have shown := table out written
  rw [List.map_nil, List.append_nil] at shown
  exact ⟨out, groups, written, carried, shown⟩

/-- The entry of the old table is neither written with its revision nor with all its octets. -/
theorem not_kept_oldImage : ∃ w₁ out,
    load "i" (surroundingsWith oldImage) = (.ok oldLoaded, w₁) ∧ oldLoaded.toBytes = .ok out ∧
    numberIn oldImage 228 2 = 0x100 ∧ numberIn out 228 2 = 0x200 ∧
    split "i" oldImage = .ok ⟨oldImage.take 224, oldTable, 152, 216⟩ ∧
    CertificateTable.read oldTable = ⟨.ok [[0x30, 0, 1, 0, 0, 0, 0, 0]], [(0, 0x100)]⟩ ∧
    CertificateTable.read (out.drop oldLoaded.data.length)
      = ⟨.ok [[0x30, 0, 0, 0, 0, 0, 0, 0]], []⟩ ∧
    ¬ SameUpToZeros [0x30, 0, 1, 0, 0, 0, 0, 0] [0x30, 0, 0, 0, 0, 0, 0, 0] := by
  obtain ⟨w₁, ran⟩ := load_oldImage
  obtain ⟨out, written, revision, table⟩ := exists_toBytes_oldLoaded
  have old : numberIn oldImage 228 2 = 0x100 := by decide +kernel
  refine ⟨w₁, out, ran, written, old, revision, split_oldImage, read_oldTable, table, ?_⟩
  rintro ⟨m, n, same⟩
  have third := congrArg (fun b => octetAt b 2) same
  simp [octetAt] at third

end ImageSigning.Image
