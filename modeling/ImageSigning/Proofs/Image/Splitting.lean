import ImageSigning.Proofs.CertificateTable.Grammar
import ImageSigning.Proofs.Frame
import ImageSigning.Proofs.Image.Acceptance
import ImageSigning.Proofs.Image.Resigning

/-!
# How a file falls apart

Loading cuts a file in two. In front of the cut is the image, filled up to the layout's unit; behind it is
the certificate table, which is the rest of the file. The entries of the table are stored in order, and
what is stored of an entry is a beginning of its content. A table that does not end the file, that overlaps
its own directory entry or that is no table is refused, before any entry is looked at. An entry of another
revision is told of once, whether or not the table is refused behind it.

* **`load_warnings`** — loading tells of the revisions that reading the table finds, and of no other.
* **`table_grammar`** — which octets are read as a table, and how.
* **`StoredAs.begins`** — what is stored of an entry is a beginning of it.
* **`load_splits`** — where a file is cut, what is stored, and which files are refused.
-/

namespace ImageSigning.Image

open Bytes Run CertificateTable Der Tlv StoredSignature

/-! ## What loading tells of revisions -/

/-- The events that tell of entries of another revision. -/
def revisionWarnings (w : World) : List Event := w.journal.filter Event.isOddRevision

/-- Surroundings in which no further entry of another revision was told of. -/
def SameWarnings (w w' : World) : Prop := revisionWarnings w' = revisionWarnings w

instance : IsPreorder World SameWarnings where
  refl _ := rfl
  trans _ _ _ h h' := Eq.trans h' h

/-- An event that is no odd revision is no warning. -/
theorem leaves_tell {e : Event} (other : e.isOddRevision = false) : Leaves SameWarnings (tell e) := by
  refine ⟨fun w => ?_⟩
  change (w.journal ++ [e]).filter Event.isOddRevision = w.journal.filter Event.isOddRevision
  simp [other]

section
variable {path : String} {w : World} {raw : Bytes} {parts : Split}

/-- Loading tells of the revisions that reading the table finds, and of no other. -/
theorem load_warnings (read : w.files.read path = .ok raw) (split : split path raw = .ok parts) :
    revisionWarnings (load path w).2 = revisionWarnings w
      ++ (CertificateTable.read parts.table).oddRevisions.map fun (n, r) => .oddRevision n r := by
  rcases ran : load path w with ⟨o, w'⟩
  unfold load at ran
  rw [bind_of_ok (get_eq_ok.2 ⟨rfl, rfl⟩), bind_of_ok (lift_eq_ok.2 ⟨read, rfl⟩),
    bind_of_ok (lift_eq_ok.2 ⟨split, rfl⟩)] at ran
  obtain ⟨v, told, ran⟩ := tellIf_cases ran
  have before : SameWarnings w v := by
    rcases told with rfl | rfl
    · rfl
    · exact (leaves_tell rfl).related w
  dsimp only at ran
  have loop := forIn_tell_eq (CertificateTable.read parts.table).oddRevisions
    (fun (n, r) => .oddRevision n r) v
  rw [bind_of_ok loop] at ran
  -- what follows stores the entries, and tells of nothing but that
  have behind : SameWarnings _ w' := Leaves.of_eq ((leaves_lift _ _).bind fun contents =>
    (leaves_storeEntries (fun e => leaves_tell) ..).bind fun signatures =>
      (leaves_tell rfl).bind fun _ => leaves_pure _) ran
  have events : ((CertificateTable.read parts.table).oddRevisions.map fun (n, r) =>
      Event.oddRevision n r).filter Event.isOddRevision = _ :=
    List.filter_eq_self.2 (List.forall_mem_map.2 fun _ _ => rfl)
  rw [behind, ← before, revisionWarnings, List.filter_append, events, revisionWarnings]

/-- Loading ends with what there is in the file's octets. -/
theorem exists_load_eq (read : w.files.read path = .ok raw) :
    ∃ w', load path w = (ofFile path raw, w') := by
  obtain ⟨w', ran, -⟩ := @load_gives w.files path w rfl
  have found : loaded w.files path = ofFile path raw := by
    rw [loaded, read]
    rfl
  exact ⟨w', by rw [ran, found]⟩

/-- A file whose table is refused is refused for the same reason. -/
theorem ofFile_of_refused_table (split : split path raw = .ok parts) {p : LayoutProblem}
    (refused : (CertificateTable.read parts.table).contents = .error p) :
    ofFile path raw = .error (.failure (.layout (some path) p)) := by
  unfold ofFile
  rw [split]
  simp only [Except.mapError, Outcome.ok_bind, refused]
  rfl

end

/-! ## Which octets are read as a table -/

/-- **The grammar of certificate tables.** Any octets fall into entries as far as they go, in just one way,
and reading finds it, in no more rounds than they have units of eight: it succeeds exactly with the
contents of the entries that make up all of the octets, and is refused otherwise for what is in the way
behind those that were read. Each entry with another revision, up to there, is met once. A file whose table
these octets are is loaded with one warning for each of those entries, and is refused for the same
reason. -/
theorem table_grammar (table : Bytes) :
    (∃ es o, ParsesFrom 0 table es o ∧
      ∀ es' o', ParsesFrom 0 table es' o' → es' = es ∧ o' = o) ∧
    (∀ fuel, table.length ≤ 8 * fuel → readFrom fuel 0 table = read table) ∧
    (∀ contents, (read table).contents = .ok contents ↔
      ∃ es, IsTable table es ∧ es.map Entry.content = contents) ∧
    (∀ p, (read table).contents = .error p ↔ ∃ es, StopsAt table es p) ∧
    (∀ es o, ParsesFrom 0 table es o → (read table).oddRevisions = oddOnes 0 es ∧
      (oddOnes 0 es).map Prod.snd = (es.map Entry.revision).filter (· ≠ revision)) ∧
    ∀ path w raw parts, w.files.read path = .ok raw → split path raw = .ok parts →
      parts.table = table →
      revisionWarnings (load path w).2 = revisionWarnings w
        ++ (read table).oddRevisions.map (fun (n, r) => .oddRevision n r) ∧
      ∀ p, (read table).contents = .error p →
        ∃ w', load path w = (.error (.failure (.layout (some path) p)), w') := by
  obtain ⟨es, o, parses⟩ := exists_parsesFrom (Nat.dvd_zero 8) table
  refine ⟨⟨es, o, parses, fun es' o' parses' => parses'.unique (Nat.dvd_zero 8) parses⟩, ?_,
    fun contents => contents_read_eq_ok, fun p => contents_read_eq_error, ?_, ?_⟩
  · intro fuel enough
    rw [parses.readFrom_eq (Nat.dvd_zero 8) enough, parses.read_eq]
  · intro es' o' parses'
    rw [parses'.read_eq]
    exact ⟨rfl, map_snd_oddOnes 0 es'⟩
  · rintro path w raw parts found split rfl
    refine ⟨load_warnings found split, fun p refused => ?_⟩
    rw [← ofFile_of_refused_table split refused]
    exact exists_load_eq found

/-- A table with an entry of an old revision and, behind it, three octets that are no entry. -/
def tornTable : Bytes :=
  ofNatLE 4 10 ++ ofNatLE 2 0x100 ++ ofNatLE 2 signedDataType ++ [0x30, 0] ++ List.replicate 6 7
    ++ [1, 2, 3]

/-- The image of the example is split into its data and a table that ends too early. -/
theorem split_tornImage : split "i" (shortImageWith tornTable)
    = .ok ⟨(shortImageWith tornTable).take 224, tornTable, 152, 216⟩ := by
  decide +kernel

/-- The short image with that table is refused, with a warning of the entry. -/
theorem table_grammar_tornTable : readFrom 3 0 tornTable = read tornTable ∧
    (∃ es, StopsAt tornTable es (.truncatedEntry 16)) ∧
    revisionWarnings (load "i" (surroundingsWith (shortImageWith tornTable))).2
      = [.oddRevision 0 0x100] ∧
    ∃ w', load "i" (surroundingsWith (shortImageWith tornTable))
      = (.error (.failure (.layout (some "i") (.truncatedEntry 16))), w') := by
  have reading : read tornTable = ⟨.error (.truncatedEntry 16), [(0, 0x100)]⟩ := rfl
  have problem : (read tornTable).contents = .error (.truncatedEntry 16) := by rw [reading]
  obtain ⟨-, rounds, -, refused, -, loading⟩ := table_grammar tornTable
  obtain ⟨warnings, ends⟩ := loading "i" _ _ _ (read_surroundingsWith _) split_tornImage rfl
  rw [reading] at warnings
  exact ⟨rounds 3 (by decide), (refused _).1 problem, warnings, ends _ problem⟩

/-! ## What is stored of an entry -/

section
variable {b : Bytes} {xs : List StoredSignature}

/-- What is stored of an entry is a beginning of its content. -/
theorem StoredAs.begins (h : StoredAs b xs) : ∀ x ∈ xs, x.der <+: b := by
  have decoded {s : Signature} (found : Signature.decode b = .ok s) : s.der <+: b := by
    obtain ⟨e, rest, read, whole⟩ := Signature.exists_read?_of_decode found
    obtain ⟨split, -⟩ := denotes_of_read? read
    exact ⟨rest, by rw [split, whole]⟩
  have kept (reason : String) : (keep b reason).der <+: b := by
    obtain ⟨rest, split, -⟩ := keep_spec b reason
    exact ⟨rest, split.symm⟩
  cases h with
  | signature found shown => exact List.forall_mem_singleton.2 (decoded found)
  | octets failed => exact List.forall_mem_singleton.2 (kept _)
  | both found unshown =>
    exact List.forall_mem_cons.2 ⟨decoded found, List.forall_mem_singleton.2 (kept _)⟩

end

/-! ## Where a file is cut -/

/-- Where a file is cut: behind all of it if the directory tells of no table, and otherwise where the
directory says, if the table is the rest of the file and leaves its directory entry alone. -/
def IsCutAt (raw : Bytes) (d : DirectoryEntry) (cut : Nat) : Prop :=
  (d.size = 0 ∧ cut = raw.length) ∨
    (d.size ≠ 0 ∧ cut = d.address ∧ cut + d.size = raw.length ∧
      d.offset + directoryEntrySize ≤ cut)

/-- Why the table that the directory tells of is refused. -/
inductive RefusesTable (path : String) (raw : Bytes) (d : DirectoryEntry) : LayoutProblem → Prop
  | notAtEnd (other : d.address + d.size ≠ raw.length) :
    RefusesTable path raw d (.tableNotAtEnd path d.address d.size raw.length)
  | overlaps (atEnd : d.address + d.size = raw.length)
    (near : d.address < d.offset + directoryEntrySize) :
    RefusesTable path raw d (.tableOverlapsHeaders path)
  | unread {p : LayoutProblem} (atEnd : d.address + d.size = raw.length)
    (behind : d.offset + directoryEntrySize ≤ d.address)
    (refused : (CertificateTable.read (raw.drop d.address)).contents = .error p) :
    RefusesTable path raw d p

/-- What an image has of the file that it was loaded from, which was cut and whose table was read. -/
structure IsCutFrom (image : Image) (raw : Bytes) (cut : Nat) (contents : List Bytes) : Prop where
  data : ∃ k < 8, image.data = raw.take cut ++ zeros k
  aligned : 8 ∣ image.data.length
  table : (CertificateTable.read (raw.drop cut)).contents = .ok contents
  stored : ∃ groups, List.Forall₂ StoredAs contents groups ∧
    List.Forall₂ (fun b xs => ∀ x ∈ xs, x.der <+: b) contents groups ∧
    image.signatures.items = groups.flatten
  count : image.signatures.count = contents.length ↔ ∀ b ∈ contents, IsTakenOnce b
  single : (∀ b ∈ contents, IsTakenOnce b) →
    List.Forall₂ (fun b x => x.der <+: b) contents image.signatures.items

section
variable {path : String} {raw : Bytes} {image : Image} {headers : Headers} {d : DirectoryEntry}

/-- An image is what stands in front of the cut, and what is stored of the entries behind it. -/
theorem isCutFrom_of_ofFile (found : ofFile path raw = .ok image) :
    ∃ headers d cut contents, Headers.read raw = .ok headers ∧
      headers.certificateTable? = some d ∧ image.checksum = headers.checksum ∧
      image.entry = d.offset ∧ IsCutAt raw d cut ∧ IsCutFrom image raw cut contents := by
  unfold ofFile at found
  obtain ⟨parts, divided, found⟩ := Outcome.bind_eq_ok.1 found
  obtain ⟨contents, entries, found⟩ := Outcome.bind_eq_ok.1 found
  obtain ⟨xss, stored, found⟩ := Outcome.bind_eq_ok.1 found
  obtain rfl := Outcome.pure_eq_ok.1 found
  rw [Outcome.mapError_eq_ok] at divided entries
  obtain ⟨headers, d, read, there, checksum, entry, shape⟩ := split_eq_ok.1 divided
  obtain ⟨cut, place, data, table⟩ :
      ∃ cut, IsCutAt raw d cut ∧ parts.data = raw.take cut ∧ parts.table = raw.drop cut := by
    rcases shape with ⟨empty, data, table⟩ | ⟨filled, atEnd, behind, data, table⟩
    · exact ⟨raw.length, .inl ⟨empty, rfl⟩, by rw [data, List.take_length],
        by rw [table, List.drop_length]⟩
    · exact ⟨d.address, .inr ⟨filled, rfl, atEnd, behind⟩, data, table⟩
  have each := Outcome.mapM_eq_ok_iff.1 stored
  refine ⟨headers, d, cut, contents, read, there, by rw [checksum], by rw [entry], place, ?_⟩
  rw [table] at entries
  refine ⟨⟨_, paddingAfter_lt _, by rw [data]⟩, ?_, entries, ?_, ?_, fun once => ?_⟩
  · rw [List.length_append, length_zeros, add_paddingAfter]
    exact eight_dvd_alignUp _
  · exact ⟨xss, each.imp fun _ _ => storedAs_of_storedOf,
      each.imp fun _ _ here => (storedAs_of_storedOf here).begins, rfl⟩
  · rw [forall_isTakenOnce_iff]
    constructor
    · intro count
      exact ⟨xss, stored, count⟩
    · rintro ⟨xss', stored', count⟩
      obtain rfl := Except.ok.inj (stored.symm.trans stored')
      exact count
  · refine (forall₂_flatten each once).imp fun b y here => ?_
    exact (storedAs_of_storedOf here).begins y (List.mem_singleton_self y)

/-- How a file is cut whose directory tells of a table. -/
theorem split_of_headers (path : String) (accepted : Headers.read raw = .ok headers)
    (there : headers.certificateTable? = some d) (filled : d.size ≠ 0) : split path raw =
      if d.address + d.size ≠ raw.length then
        .error (.tableNotAtEnd path d.address d.size raw.length)
      else if d.address < d.offset + directoryEntrySize then .error (.tableOverlapsHeaders path)
      else .ok ⟨raw.take d.address, raw.drop d.address, headers.checksum, d.offset⟩ := by
  unfold split
  rw [accepted]
  simp only [Except.mapError, Outcome.ok_bind, there]
  rw [if_neg filled]
  rfl

/-- A table that is not the end of the file, that overlaps its directory entry or that is none is
refused. -/
theorem exists_refusesTable (path : String)
    (h : d.address + d.size ≠ raw.length ∨ d.address < d.offset + directoryEntrySize ∨
      ∃ p, (CertificateTable.read (raw.drop d.address)).contents = .error p) :
    ∃ p, RefusesTable path raw d p := by
  by_cases atEnd : d.address + d.size = raw.length
  · by_cases near : d.address < d.offset + directoryEntrySize
    · exact ⟨_, .overlaps atEnd near⟩
    · obtain ⟨p, refused⟩ := (h.resolve_left (not_not_intro atEnd)).resolve_left near
      exact ⟨p, .unread atEnd (not_lt.1 near) refused⟩
  · exact ⟨_, .notAtEnd atEnd⟩

/-- A table that is refused is what the image is refused for. -/
theorem RefusesTable.ofFile_eq {p : LayoutProblem} (h : RefusesTable path raw d p)
    (accepted : Headers.read raw = .ok headers) (there : headers.certificateTable? = some d)
    (filled : d.size ≠ 0) : ofFile path raw = .error (.failure (.layout (some path) p)) := by
  have divided := split_of_headers path accepted there filled
  have stops (q : LayoutProblem) (here : split path raw = .error q) :
      ofFile path raw = .error (.failure (.layout (some path) q)) := by
    unfold ofFile
    rw [here]
    rfl
  cases h with
  | notAtEnd other =>
    rw [if_pos other] at divided
    exact stops _ divided
  | overlaps atEnd near =>
    rw [if_neg (not_not_intro atEnd), if_pos near] at divided
    exact stops _ divided
  | unread atEnd behind refused =>
    rw [if_neg (not_not_intro atEnd), if_neg (not_lt.2 behind)] at divided
    exact ofFile_of_refused_table divided refused

/-- **Where a file is cut.** A file that is loaded is cut behind all of it if its directory tells of no
table, and otherwise where the directory says. In front of the cut is the image, filled up with fewer than
eight zeros; behind it is a table. What is stored of each entry of the table is a beginning of its content,
in order, and it is one signature of each exactly if no entry holds a signature whose signer cannot be told
of. A file whose directory tells of a table that is not its end, that overlaps the directory entry or that
is none is refused for that reason. -/
theorem load_splits {w : World} (read : w.files.read path = .ok raw) :
    (∀ image w', load path w = (.ok image, w') →
      ∃ headers d cut contents, Headers.read raw = .ok headers ∧
        headers.certificateTable? = some d ∧ image.checksum = headers.checksum ∧
        image.entry = d.offset ∧ IsCutAt raw d cut ∧ IsCutFrom image raw cut contents) ∧
    ∀ headers d, Headers.read raw = .ok headers → headers.certificateTable? = some d →
      d.size ≠ 0 →
      (d.address + d.size ≠ raw.length ∨ d.address < d.offset + directoryEntrySize ∨
        ∃ p, (CertificateTable.read (raw.drop d.address)).contents = .error p) →
      ∃ p w', RefusesTable path raw d p ∧
        load path w = (.error (.failure (.layout (some path) p)), w') := by
  refine ⟨fun image w' ran => ?_, fun headers d accepted there filled wrong => ?_⟩
  · exact isCutFrom_of_ofFile ((exists_load_iff read).1 ⟨w', ran⟩)
  · obtain ⟨p, refuses⟩ := exists_refusesTable path wrong
    obtain ⟨w', ran⟩ := exists_load_eq read
    rw [refuses.ofFile_eq accepted there filled] at ran
    exact ⟨p, w', refuses, ran⟩

end

/-- What the directory of the image with the old table tells of it, with more octets behind it too. -/
theorem directory_oldImage (more : Bytes) (few : more = [] ∨ more = [0]) :
    ∃ h, Headers.read (oldImage ++ more) = .ok h ∧ h.certificateTable? = some ⟨216, 224, 16⟩ := by
  have told : ((Headers.read (oldImage ++ more)).toOption.bind (·.certificateTable?))
      = some ⟨216, 224, 16⟩ := by
    rcases few with rfl | rfl
    · decide +kernel
    · decide +kernel
  rcases accepted : Headers.read (oldImage ++ more) with q | h
  · rw [accepted] at told
    cases told
  · rw [accepted] at told
    exact ⟨h, rfl, told⟩

/-- The image with the old table is cut in front of it, and of its entry the first two octets are stored.
With an octet behind the table it is refused. -/
theorem load_splits_oldImage :
    (∃ w₁, load "i" (surroundingsWith oldImage) = (.ok oldLoaded, w₁)) ∧
    IsCutFrom oldLoaded oldImage 224 [[0x30, 0, 1, 0, 0, 0, 0, 0]] ∧
    List.Forall₂ (fun b x => x.der <+: b) [[0x30, 0, 1, 0, 0, 0, 0, 0]]
      oldLoaded.signatures.items ∧
    ∃ p w', RefusesTable "i" (oldImage ++ [0]) ⟨216, 224, 16⟩ p ∧
      load "i" (surroundingsWith (oldImage ++ [0]))
        = (.error (.failure (.layout (some "i") p)), w') := by
  obtain ⟨w₁, ran⟩ := load_oldImage
  obtain ⟨loads, -⟩ := load_splits (read_surroundingsWith oldImage)
  obtain ⟨-, refuses⟩ := load_splits (read_surroundingsWith (oldImage ++ [0]))
  obtain ⟨headers, d, cut, contents, read, there, -, -, place, shape⟩ := loads oldLoaded w₁ ran
  obtain ⟨h, read', there'⟩ := directory_oldImage [] (.inl rfl)
  rw [List.append_nil] at read'
  obtain rfl := Except.ok.inj (read.symm.trans read')
  obtain rfl := Option.some.inj (there.symm.trans there')
  obtain rfl : cut = 224 := by
    rcases place with ⟨empty, -⟩ | ⟨-, place, -⟩
    · cases empty
    · exact place
  have entries : (CertificateTable.read (oldImage.drop 224)).contents
      = .ok [[0x30, 0, 1, 0, 0, 0, 0, 0]] := by decide +kernel
  obtain rfl := Except.ok.inj (shape.table.symm.trans entries)
  have once := shape.count.1 rfl
  obtain ⟨h, read, there⟩ := directory_oldImage [0] (.inr rfl)
  exact ⟨⟨w₁, ran⟩, shape, shape.single once,
    refuses h _ read there (by decide) (.inl (by decide +kernel))⟩

end ImageSigning.Image
