import ImageSigning.Proofs.Image.Reload
import ImageSigning.Proofs.Signature.Refusal

/-!
# Which entries an image can be loaded with

An image whose headers and whose table can be read is loaded with whatever signatures its table holds,
each decoded or kept as octets, except for three kinds of entries that end the loading: signatures with
a certificate of a version that does not exist, signatures whose deciding issuer has a misplaced bit
string, and signatures whose signer's subject has one.

* **`IsRefused`** — entries that end the loading.
* **`StoredAs`** — what is stored of an entry.
* **`storedAs_of_storedOf`**, **`exists_storedOf_iff`** — something is stored of every other entry.
* **`load_entries`** — which images are loaded, and with what.
-/

namespace ImageSigning.Image

open Bytes Der Signature StoredSignature

/-! ## One entry -/

/-- A signature whose signer has a subject with a misplaced bit string. -/
def HasMisplacedSubject (b : Bytes) : Prop :=
  ∃ s, Signature.decode b = .ok s ∧ s.signer.subject.show = .error .misplacedBits

/-- An entry that ends the loading. -/
def IsRefused (b : Bytes) : Prop :=
  HasUnknownVersion b ∨ HasMisplacedIssuer b ∨ HasMisplacedSubject b

/-- What is stored of an entry: the signature in it, or its octets where there is none, or both where
there is one whose signer cannot be told of. -/
inductive StoredAs (b : Bytes) : List StoredSignature → Prop
  | signature {s : Signature} {t : String} (found : Signature.decode b = .ok s)
      (shown : s.signer.subject.show = .ok t) : StoredAs b [.decoded s]
  | octets {p : SignatureProblem} (failed : Signature.decode b = .error p) :
      StoredAs b [keep b p.message]
  | both {s : Signature} {q : NameProblem} (found : Signature.decode b = .ok s)
      (unshown : s.signer.subject.show = .error q) :
      StoredAs b [.decoded s, keep b (SignatureProblem.issuer q).message]

section
variable {b : Bytes} {xs : List StoredSignature}

/-- What is computed for an entry is stored of it. -/
theorem storedAs_of_storedOf (h : storedOf b = .ok xs) : StoredAs b xs := by
  rcases storedOf_eq_ok h with
    ⟨p, failed, -, rfl⟩ | ⟨s, t, found, shown, rfl⟩ | ⟨s, q, found, unshown, rfl⟩
  · exact .octets failed
  · exact .signature found shown
  · exact .both found unshown

/-- Every problem with a name is a foreign one but that of misplaced bits. -/
theorem isForeignName_eq_false {q : NameProblem} : isForeignName q = false ↔ q = .misplacedBits := by
  cases q <;> decide

/-- An entry that is not stored ends the loading with a defect. -/
theorem storedOf_eq_error {f : Fault} : storedOf b = .error f ↔
    (∃ p, Signature.decode b = .error p ∧ p.isForeign = false ∧ f = .defect (.signature p)) ∨
    (HasMisplacedSubject b ∧ f = .defect (.name .misplacedBits)) := by
  unfold storedOf HasMisplacedSubject
  rcases Signature.decode b with p | s
  · dsimp only
    by_cases foreign : p.isForeign = true
    · simp [foreign]
    · rw [if_neg foreign]
      constructor
      · intro h
        obtain rfl := Except.error.inj h
        exact .inl ⟨p, rfl, Bool.eq_false_iff.2 foreign, rfl⟩
      · rintro (⟨p', same, -, rfl⟩ | ⟨⟨s, same, -⟩, -⟩)
        · rw [Except.error.inj same]
        · cases same
  · dsimp only
    rcases shown : s.signer.subject.show with q | t
    · dsimp only
      by_cases foreign : isForeignName q = true
      · have other : q ≠ .misplacedBits := by
          rintro rfl
          cases foreign
        simp [foreign, shown, other]
      · obtain rfl := isForeignName_eq_false.1 (Bool.eq_false_iff.2 foreign)
        rw [if_neg foreign]
        constructor
        · intro h
          obtain rfl := Except.error.inj h
          exact .inr ⟨⟨s, rfl, shown⟩, rfl⟩
        · rintro (⟨p', same, -⟩ | ⟨-, rfl⟩)
          · cases same
          · rfl
    · simp [shown]

/-- Something is stored of an entry exactly if it does not end the loading. -/
theorem exists_storedOf_iff : (∃ xs, storedOf b = .ok xs) ↔ ¬ IsRefused b := by
  have refused : (∃ f, storedOf b = .error f) ↔ IsRefused b := by
    simp only [storedOf_eq_error]
    unfold IsRefused
    rw [← or_assoc, ← exists_decode_unforeign_iff]
    constructor
    · rintro ⟨f, ⟨p, failed, stop, -⟩ | ⟨misplaced, -⟩⟩
      · exact .inl ⟨p, failed, stop⟩
      · exact .inr misplaced
    · rintro (⟨p, failed, stop⟩ | misplaced)
      · exact ⟨_, .inl ⟨p, failed, stop, rfl⟩⟩
      · exact ⟨_, .inr ⟨misplaced, rfl⟩⟩
  rw [← refused]
  rcases storedOf b with f | xs <;> simp

end

/-! ## All entries -/

/-- All entries are stored exactly if none ends the loading. -/
theorem exists_mapM_storedOf_iff {contents : List Bytes} :
    (∃ xss, contents.mapM storedOf = .ok xss) ↔ ∀ b ∈ contents, ¬ IsRefused b := by
  simp only [Outcome.mapM_eq_ok_iff, ← exists_storedOf_iff]
  induction contents with
  | nil => simp
  | cons b contents ih =>
    rw [List.forall_mem_cons, ← ih]
    constructor
    · rintro ⟨_, _ | ⟨here, there⟩⟩
      exact ⟨⟨_, here⟩, _, there⟩
    · rintro ⟨⟨xs, here⟩, xss, there⟩
      exact ⟨xs :: xss, .cons here there⟩

section
variable {path : String} {w : World} {raw : Bytes} {parts : Split} {contents : List Bytes}

/-- What a file is loaded as whose headers and table can be read. -/
theorem ofFile_of_split (split : split path raw = .ok parts)
    (entries : (CertificateTable.read parts.table).contents = .ok contents) :
    ofFile path raw = (contents.mapM storedOf).map fun xss =>
      ⟨path, parts.data ++ zeros (paddingAfter parts.data.length), parts.checksum, parts.entry,
        ⟨xss.flatten⟩⟩ := by
  unfold ofFile
  rw [split]
  simp only [Except.mapError, Outcome.ok_bind, entries]
  rcases contents.mapM storedOf with f | xss
  · rfl
  · rfl

/-- **Loading whatever the entries hold.** Reading octets as a signature ends with a signature or the
word that there is none, but for the two ways that are known. An image whose headers and table can be
read is loaded exactly if none of its entries is refused, and the loading ends with a defect otherwise.
Its signatures are then what is stored of the entries, in order: one of each exactly if there is no
signature among them whose signer cannot be told of. -/
theorem load_entries (read : w.files.read path = .ok raw) (split : split path raw = .ok parts)
    (entries : (CertificateTable.read parts.table).contents = .ok contents) :
    (∀ b, (∃ p, Signature.decode b = .error p ∧ p.isForeign = false) ↔
      HasUnknownVersion b ∨ HasMisplacedIssuer b) ∧
    ((∃ image w', load path w = (.ok image, w')) ↔ ∀ b ∈ contents, ¬ IsRefused b) ∧
    ((∃ b ∈ contents, IsRefused b) → ∃ d w', load path w = (.error (.defect d), w')) ∧
    ∀ image w', load path w = (.ok image, w') →
      ∃ groups, List.Forall₂ StoredAs contents groups ∧ image.signatures.items = groups.flatten ∧
        (image.signatures.count = contents.length ↔ ∀ b ∈ contents, IsTakenOnce b) := by
  have shape := ofFile_of_split split entries
  have accepted : (∃ image, ofFile path raw = .ok image) ↔ ∀ b ∈ contents, ¬ IsRefused b := by
    rw [← exists_mapM_storedOf_iff, shape]
    rcases contents.mapM storedOf with f | xss <;> simp [Except.map]
  refine ⟨fun b => exists_decode_unforeign_iff, ?_, ?_, ?_⟩
  · rw [← accepted]
    exact exists_congr fun image => exists_load_iff read
  · rintro ⟨b, m, refused⟩
    obtain ⟨w', ran, -⟩ := load_gives w rfl
    have found : loaded w.files path = ofFile path raw := by
      rw [loaded, read]
      rfl
    rcases stored : contents.mapM storedOf with f | xss
    · obtain ⟨-, a, -, -, -, here⟩ := Outcome.mapM_eq_error_iff.1 stored
      obtain ⟨d, rfl⟩ : ∃ d, f = .defect d := by
        rcases storedOf_eq_error.1 here with ⟨p, -, -, rfl⟩ | ⟨-, rfl⟩
        · exact ⟨_, rfl⟩
        · exact ⟨_, rfl⟩
      rw [found, shape, stored] at ran
      exact ⟨d, w', ran⟩
    · exact (exists_mapM_storedOf_iff.1 ⟨xss, stored⟩ b m refused).elim
  · intro image w' ran
    have found := (exists_load_iff read).1 ⟨w', ran⟩
    rw [shape, Outcome.map_eq_ok] at found
    obtain ⟨xss, stored, rfl⟩ := found
    refine ⟨xss, ?_, rfl, ?_⟩
    · exact (Outcome.mapM_eq_ok_iff.1 stored).imp fun _ _ => storedAs_of_storedOf
    · rw [forall_isTakenOnce_iff]
      constructor
      · intro count
        exact ⟨xss, stored, count⟩
      · rintro ⟨xss', stored', count⟩
        obtain rfl := Except.ok.inj (stored.symm.trans stored')
        exact count

end

/-! ## An image that is refused -/

/-- A certificate of a version that does not exist. -/
def newerCertificate : Bytes := (shortCertificate 9).take 10 ++ [3] ++ (shortCertificate 9).drop 11

/-- Signed data with that certificate. -/
def newerSignature : Bytes :=
  contentInfo signedDataOid (Der.sequence [integer 1, setOf 0x31 [],
    contentInfo indirectDataOid (bind (.compute .sha256 [])), setOf 0xa0 [newerCertificate],
    setOf 0x31 []])

/-- The short image with that signature. -/
def newerImage : Bytes := shortImageWith (CertificateTable.entry newerSignature)

/-- The image of the example is split into its data and one entry. -/
theorem split_newerImage : split "i" newerImage
    = .ok ⟨newerImage.take 224, CertificateTable.entry newerSignature, 152, 216⟩ := by
  decide +kernel

/-- The table of the example has that entry alone. -/
theorem contents_newerImage :
    (CertificateTable.read (CertificateTable.entry newerSignature)).contents
      = .ok [CertificateTable.padded newerSignature] := by
  decide +kernel

/-- The entry does not decode for the version of its certificate. -/
theorem decode_newerSignature :
    Signature.decode (CertificateTable.padded newerSignature) = .error .certificateVersion := by
  decide +kernel

/-- The image is not loaded, though nothing but the version of a certificate is wrong with it. -/
theorem load_entries_newerImage :
    ∃ d w', load "i" (surroundingsWith newerImage) = (.error (.defect d), w') := by
  obtain ⟨ways, -, refused, -⟩ :=
    load_entries (read_surroundingsWith newerImage) split_newerImage contents_newerImage
  have way := (ways _).1 ⟨_, decode_newerSignature, rfl⟩
  exact refused ⟨_, List.mem_singleton_self _, way.elim .inl fun h => .inr (.inl h)⟩

end ImageSigning.Image
