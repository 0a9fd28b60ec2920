import ImageSigning.Image
import ImageSigning.Proofs.Outcome
import ImageSigning.Proofs.Run
import ImageSigning.Proofs.CertificateTable
import ImageSigning.Proofs.Image.Headers
import ImageSigning.Proofs.Image.Regions

/-!
# What loading finds

Loading an image tells of what it meets and changes nothing else, so the image that is loaded is a
function of the files. The octets of the file that are not its certificate table are filled up to the
layout's unit, and what is stored of each entry of the table depends on the entry's content alone: the
signature that it is, or its octets, or both where the signature's signer cannot be told of.

* **`loaded`** — the image that a path leads to.
* **`load_gives`** — loading gives that image and leaves the files alone.
* **`IsTakenOnce`** — contents of which one signature is stored, and not two or none.
* **`IsLaidOut`** — what holds of every image that was loaded: where its fields stand.
* **`isLaidOut_of_ofFile`** — every image that was loaded is laid out so.
-/

namespace ImageSigning.Image

open Bytes Run

/-! ## Loading as a function of the files -/

/-- What is stored of the content of a table entry. -/
def storedOf (content : Bytes) : Except Fault (List StoredSignature) :=
  match Signature.decode content with
  | .error p =>
    if p.isForeign then .ok [StoredSignature.keep content p.message]
    else .error (.defect (.signature p))
  | .ok s =>
    match s.signer.subject.show with
    | .ok _ => .ok [.decoded s]
    | .error q =>
      if isForeignName q then
        .ok [.decoded s, StoredSignature.keep content (SignatureProblem.issuer q).message]
      else .error (.defect (.name q))

/-- The image in a file's octets. -/
def ofFile (path : String) (raw : Bytes) : Except Fault Image := do
  let parts ← (split path raw).mapError fun p => .failure (.layout (some path) p)
  let contents ← (CertificateTable.read parts.table).contents.mapError
    fun p => .failure (.layout (some path) p)
  let stored ← contents.mapM storedOf
  return ⟨path, parts.data ++ zeros (paddingAfter parts.data.length), parts.checksum, parts.entry,
    ⟨stored.flatten⟩⟩

/-- The image that a path leads to. -/
def loaded (files : FileSystem) (path : String) : Except Fault Image := do
  let raw ← (files.read path).mapError (unreadable path)
  ofFile path raw

section
variable {files : FileSystem} {path : String}

/-- An entry that does not decode is stored as its octets. -/
theorem storeUndecoded_gives (number : Nat) (content : Bytes) (p : SignatureProblem) (s : Store) :
    Gives files (storeUndecoded path number content p s)
      (.ok (s.append (StoredSignature.keep content p.message))) := by
  obtain ⟨der, reason, shown⟩ :
      ∃ der reason, StoredSignature.keep content p.message = .undecoded der reason := by
    unfold StoredSignature.keep
    split
    · exact ⟨_, _, rfl⟩
    · exact ⟨_, _, rfl⟩
  unfold storeUndecoded Store.report
  refine (gives_tell _).seq ?_
  dsimp only
  rw [shown]
  exact ((gives_pure _).seq (gives_tell _)).seq (gives_pure _)

/-- An entry adds what is stored of it. -/
theorem storeEntry_gives (number : Nat) (content : Bytes) (s : Store) :
    Gives files (storeEntry path number content s)
      ((storedOf content).map fun xs => ⟨s.items ++ xs⟩) := by
  unfold storeEntry storedOf
  rcases Signature.decode content with p | d
  · dsimp only
    split
    · exact storeUndecoded_gives number content p s
    · exact gives_throw _
  · dsimp only [Store.announce]
    rcases d.signer.subject.show with q | t
    · dsimp only [Except.map]
      split
      · have both := @storeUndecoded_gives files path number content (.issuer q)
          (s.append (.decoded d))
        simpa [Store.append] using both
      · exact gives_throw _
    · exact (gives_tell _).seq (gives_pure _)

/-- Entries add, one after the other, what is stored of each. -/
theorem storeEntries_gives (number : Nat) (contents : List Bytes) (s : Store) :
    Gives files (storeEntries path number contents s)
      ((contents.mapM storedOf).map fun xss => ⟨s.items ++ xss.flatten⟩) := by
  induction contents generalizing number s with
  | nil =>
    have same : (⟨s.items ++ []⟩ : Store) = s := by rw [List.append_nil]
    change Gives files (pure s) (.ok ⟨s.items ++ []⟩)
    rw [same]
    exact gives_pure s
  | cons content contents ih =>
    rw [storeEntries, List.mapM_cons]
    have step := (@storeEntry_gives files path number content s).bind fun s => ih (number + 1) s
    have joined : ((storedOf content).map fun xs => (⟨s.items ++ xs⟩ : Store)) >>= (fun s =>
        (contents.mapM storedOf).map fun xss => (⟨s.items ++ xss.flatten⟩ : Store))
        = (do
            let xs ← storedOf content
            let xss ← contents.mapM storedOf
            pure (xs :: xss) : Except Fault _).map fun xss => ⟨s.items ++ xss.flatten⟩ := by
      rcases storedOf content with f | xs
      · rfl
      · rcases contents.mapM storedOf with f | xss
        · rfl
        · change (Except.ok (⟨s.items ++ xs ++ xss.flatten⟩ : Store) : Except Fault Store)
            = .ok ⟨s.items ++ (xs :: xss).flatten⟩
          rw [List.flatten_cons, List.append_assoc]
    rw [← joined]
    exact step

/-- Loading gives the image that the path leads to and leaves the files alone. -/
theorem load_gives : Gives files (load path) (loaded files path) := by
  unfold load loaded ofFile
  refine gives_files fun w here => ?_
  rw [here]
  refine (gives_lift _ _).bind fun raw => (gives_lift _ _).bind fun parts => gives_tellIf ?_
  refine (gives_tells _ _).seq ((gives_lift _ _).bind fun contents => ?_)
  have stored := @storeEntries_gives files path 0 contents .empty
  rcases shown : contents.mapM storedOf with f | xss
  · rw [shown] at stored
    exact stored.stop
  · rw [shown] at stored
    refine stored.seq ((gives_tell _).seq ?_)
    exact gives_pure _

end

/-- Loading succeeds exactly if the file that the path leads to is an image. -/
theorem exists_load_iff {path : String} {w : World} {raw : Bytes} {image : Image}
    (read : w.files.read path = .ok raw) :
    (∃ w', load path w = (.ok image, w')) ↔ ofFile path raw = .ok image := by
  have found : loaded w.files path = ofFile path raw := by
    rw [loaded, read]
    rfl
  have gives : Gives w.files (load path) (loaded w.files path) := load_gives
  rw [found] at gives
  constructor
  · rintro ⟨w', ran⟩
    exact (gives.eq_ok ran).1
  · intro h
    rw [h] at gives
    exact gives.exists_ok

/-- What was loaded is the image in a file. -/
theorem exists_ofFile_of_load {path : String} {w w' : World} {image : Image}
    (h : load path w = (.ok image, w')) :
    ∃ raw, w.files.read path = .ok raw ∧ ofFile path raw = .ok image ∧ w'.files = w.files := by
  obtain ⟨found, kept⟩ := load_gives.eq_ok h
  unfold loaded at found
  obtain ⟨raw, read, found⟩ := Outcome.bind_eq_ok.1 found
  exact ⟨raw, Outcome.mapError_eq_ok.1 read, found, kept⟩

/-! ## What is stored of an entry -/

/-- Octets that are stored as one signature: they hold something else than a signature, or one whose
signer has a readable subject. -/
def IsTakenOnce (content : Bytes) : Prop :=
  match Signature.decode content with
  | .error p => p.isForeign = true
  | .ok s => ∃ t, s.signer.subject.show = .ok t

/-- An entry is taken once exactly if one signature is stored of it. -/
theorem isTakenOnce_iff {content : Bytes} :
    IsTakenOnce content ↔ ∃ x, storedOf content = .ok [x] := by
  unfold IsTakenOnce storedOf
  rcases Signature.decode content with p | s
  · dsimp only
    split <;> simp_all
  · dsimp only
    rcases s.signer.subject.show with q | t
    · dsimp only
      split <;> simp
    · simp

/-- Something is stored of every entry. -/
theorem ne_nil_of_storedOf {content : Bytes} {xs : List StoredSignature}
    (h : storedOf content = .ok xs) : xs ≠ [] := by
  unfold storedOf at h
  split at h
  · split at h
    · rw [← Except.ok.inj h]
      exact List.cons_ne_nil _ _
    · cases h
  · split at h
    · rw [← Except.ok.inj h]
      exact List.cons_ne_nil _ _
    · split at h
      · rw [← Except.ok.inj h]
        exact List.cons_ne_nil _ _
      · cases h

/-- At least one signature is stored of each entry. -/
theorem length_le_of_stored {contents : List Bytes} {xss : List (List StoredSignature)}
    (h : List.Forall₂ (fun b xs => storedOf b = .ok xs) contents xss) :
    contents.length ≤ xss.flatten.length := by
  induction h with
  | nil => simp
  | cons here _ ih =>
    have first := List.length_pos_of_ne_nil (ne_nil_of_storedOf here)
    rw [List.flatten_cons, List.length_append, List.length_cons]
    omega

/-- Every entry is stored as one signature exactly if storing succeeds with as many as there are
entries. -/
theorem forall_isTakenOnce_iff {contents : List Bytes} : (∀ b ∈ contents, IsTakenOnce b) ↔
    ∃ xss, contents.mapM storedOf = .ok xss ∧ xss.flatten.length = contents.length := by
  constructor
  · intro once
    induction contents with
    | nil => exact ⟨[], rfl, rfl⟩
    | cons b contents ih =>
      obtain ⟨x, here⟩ := isTakenOnce_iff.1 (once b (List.mem_cons_self ..))
      obtain ⟨xss, there, size⟩ := ih fun c m => once c (List.mem_cons_of_mem _ m)
      refine ⟨[x] :: xss, ?_, ?_⟩
      · rw [List.mapM_cons, here, there]
        rfl
      · rw [List.flatten_cons, List.length_append, size, List.length_cons, Nat.add_comm]
        rfl
  · rintro ⟨xss, stored, size⟩
    rw [Outcome.mapM_eq_ok_iff] at stored
    induction stored with
    | nil => simp
    | @cons b xs contents xss here rest ih =>
      have first := List.length_pos_of_ne_nil (ne_nil_of_storedOf here)
      have others := length_le_of_stored rest
      rw [List.flatten_cons, List.length_append, List.length_cons] at size
      obtain ⟨x, rfl⟩ := List.length_eq_one_iff.1 (by omega : xs.length = 1)
      exact List.forall_mem_cons.2 ⟨isTakenOnce_iff.2 ⟨x, here⟩, ih (by omega)⟩

/-- What is stored is stored of some entry. -/
theorem exists_storedOf_of_mem_flatten {contents : List Bytes} {xss : List (List StoredSignature)}
    {x : StoredSignature} (h : List.Forall₂ (fun b xs => storedOf b = .ok xs) contents xss)
    (m : x ∈ xss.flatten) :
    ∃ b xs, storedOf b = .ok xs ∧ x ∈ xs ∧ ∀ y ∈ xs, y ∈ xss.flatten := by
  induction h with
  | nil => simp at m
  | @cons b xs contents xss here _ ih =>
    rw [List.flatten_cons, List.mem_append] at m
    rcases m with m | m
    · exact ⟨b, xs, here, m, fun y m => by simp [m]⟩
    · obtain ⟨b', xs', here', m', all⟩ := ih m
      exact ⟨b', xs', here', m', fun y m => by simp [all y m]⟩

/-- Every signature of an image that was loaded was stored of an entry, with all else that was. -/
theorem exists_storedOf_of_mem {path : String} {raw : Bytes} {image : Image} {x : StoredSignature}
    (h : ofFile path raw = .ok image) (m : x ∈ image.signatures.items) :
    ∃ b xs, storedOf b = .ok xs ∧ x ∈ xs ∧ ∀ y ∈ xs, y ∈ image.signatures.items := by
  unfold ofFile at h
  obtain ⟨parts, -, h⟩ := Outcome.bind_eq_ok.1 h
  obtain ⟨contents, -, h⟩ := Outcome.bind_eq_ok.1 h
  obtain ⟨xss, stored, h⟩ := Outcome.bind_eq_ok.1 h
  obtain rfl := Outcome.pure_eq_ok.1 h
  exact exists_storedOf_of_mem_flatten (Outcome.mapM_eq_ok_iff.1 stored) m

/-! ## Where the fields of a loaded image stand -/

/-- What splitting a file comes to: the headers can be read, and the table is empty or the file's end. -/
theorem split_eq_ok {path : String} {raw : Bytes} {parts : Split} : split path raw = .ok parts ↔
    ∃ h e, Headers.read raw = .ok h ∧ h.certificateTable? = some e ∧
      parts.checksum = h.checksum ∧ parts.entry = e.offset ∧
      ((e.size = 0 ∧ parts.data = raw ∧ parts.table = []) ∨
        (e.size ≠ 0 ∧ e.address + e.size = raw.length ∧ e.offset + 8 ≤ e.address ∧
          parts.data = raw.take e.address ∧ parts.table = raw.drop e.address)) := by
  unfold split
  rw [Outcome.bind_eq_ok]
  constructor
  · rintro ⟨h, read, split⟩
    rw [Outcome.mapError_eq_ok] at read
    split at split
    · cases split
    · rename_i e found
      refine ⟨h, e, read, found, ?_⟩
      split at split
      · rename_i empty
        obtain rfl := Outcome.pure_eq_ok.1 split
        exact ⟨rfl, rfl, .inl ⟨empty, rfl, rfl⟩⟩
      · rename_i filled
        split at split
        · cases split
        · rename_i atEnd
          split at split
          · cases split
          · rename_i behind
            obtain rfl := Outcome.pure_eq_ok.1 split
            exact ⟨rfl, rfl, .inr ⟨filled, not_not.1 atEnd, not_lt.1 behind, rfl, rfl⟩⟩
  · rcases parts with ⟨data, table, checksum, entry⟩
    rintro ⟨h, e, read, found, checksumPlace, entryPlace, parts⟩
    dsimp only at checksumPlace entryPlace parts
    subst checksumPlace entryPlace
    refine ⟨h, Outcome.mapError_eq_ok.2 read, ?_⟩
    rw [found]
    dsimp only
    rcases parts with ⟨empty, rfl, rfl⟩ | ⟨filled, atEnd, behind, rfl, rfl⟩
    · rw [if_pos empty]
      rfl
    · have apart : ¬ e.address < e.offset + directoryEntrySize := not_lt.2 behind
      rw [if_neg filled, if_neg (not_not_intro atEnd), if_neg apart]
      rfl

/-- An image with its fields at the given places, filled up to the layout's unit. -/
structure IsLaidOut (image : Image) (c e : Nat) : Prop where
  checksum : image.checksum = c
  entry : image.entry = e
  fields : Headers.HasFields image.data c e
  aligned : 8 ∣ image.data.length

/-- Every image that was loaded is laid out as its headers say. -/
theorem isLaidOut_of_ofFile {path : String} {raw : Bytes} {image : Image}
    (h : ofFile path raw = .ok image) : ∃ c e, IsLaidOut image c e := by
  unfold ofFile at h
  obtain ⟨parts, split, h⟩ := Outcome.bind_eq_ok.1 h
  obtain ⟨contents, -, h⟩ := Outcome.bind_eq_ok.1 h
  obtain ⟨stored, -, h⟩ := Outcome.bind_eq_ok.1 h
  obtain rfl := Outcome.pure_eq_ok.1 h
  rw [Outcome.mapError_eq_ok, split_eq_ok] at split
  obtain ⟨headers, e, read, found, checksum, entry, shape⟩ := split
  obtain ⟨fields, -, -⟩ := Headers.certificateTable?_eq_some read found
  refine ⟨parts.checksum, parts.entry, rfl, rfl, ?_, ?_⟩
  · rw [checksum, entry]
    refine fields.congr fun n before _ => ?_
    rw [octetAt_append_zeros]
    rcases shape with ⟨-, data, -⟩ | ⟨-, -, behind, data, -⟩
    · rw [data]
    · rw [data, octetAt_take (by omega)]
  · rw [List.length_append, length_zeros, add_paddingAfter]
    exact eight_dvd_alignUp _

/-- Where both fields stand inside, the checksum stands before the directory's place. -/
theorem IsLaidOut.le_of_fieldsInside {image : Image} {c e : Nat} (laid : IsLaidOut image c e)
    (inside : FieldsInside image.data.length image.checksum image.entry) :
    c + 4 ≤ e ∧ e + 8 ≤ image.data.length := by
  obtain ⟨-, apart, stop⟩ := inside
  rw [laid.checksum, laid.entry] at apart
  rw [laid.entry] at stop
  omega

end ImageSigning.Image
