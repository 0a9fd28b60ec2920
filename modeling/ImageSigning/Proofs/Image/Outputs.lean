import ImageSigning.Proofs.CertificateTable.Grammar
import ImageSigning.Proofs.FileSystem.Interruption
import ImageSigning.Proofs.Image.Layout
import ImageSigning.Proofs.Writing

/-!
# The two ways to write an image

The newest signature is reached in two ways: by its number, to write it by itself, and as the last of all
signatures, each of which fills an entry of the table. The two agree up to the zeros that fill the entry
up.

* **`forall₂_padded`** — an entry begins with its signature and goes on with zeros.
* **`outputs_agree`** — what is counted, and what stands in the two files.
-/

namespace ImageSigning

open Bytes CertificateTable

/-- Fewer zeros fill contents up than an entry is aligned to. -/
theorem CertificateTable.IsFilledUp.exists_lt {content filled : Bytes} (h : IsFilledUp content filled) :
    ∃ k < 8, filled = content ++ zeros k := by
  obtain ⟨k, rfl, -, least⟩ := h
  have aligned : 8 ∣ content.length + paddingAfter content.length :=
    add_paddingAfter content.length ▸ eight_dvd_alignUp content.length
  exact ⟨k, (least aligned).trans_lt (paddingAfter_lt content.length), rfl⟩

/-- Signatures are filled up one by one. -/
theorem forall₂_padded (items : List StoredSignature) :
    List.Forall₂ (fun x b => IsFilledUp x.der b) items (items.map fun x => padded x.der) := by
  rw [List.forall₂_map_right_iff, List.forall₂_same]
  intro x _
  exact isFilledUp_padded x.der

namespace Image

/-- The image with signatures added, one after the other. -/
def addAll (image : Image) (added : List StoredSignature) : Image := added.foldl append image

/-- Adding signatures puts them behind those that are stored. -/
theorem addAll_eq (image : Image) (added : List StoredSignature) : image.addAll added =
    { image with signatures := ⟨image.signatures.items ++ added⟩ } := by
  induction added generalizing image with
  | nil => simp [addAll]
  | cons x added ih =>
    change (image.append x).addAll added = _
    rw [ih]
    simp [append, Store.append]

/-- The place and the size of the table that the directory of a file states, as the octets there. -/
def tableAt (out : Bytes) (e : Nat) : Bytes :=
  (out.drop (numberIn out e 4)).take (numberIn out (e + 4) 4)

/-- The table that a written file's directory states is the table of the image, if there is one. -/
theorem IsWrittenAs.tableAt_eq {image : Image} {c e : Nat} {out : Bytes}
    (h : IsWrittenAs image c e out) (filled : image.signatures.items ≠ []) :
    tableAt out e = image.certificateTable := by
  rcases h.place_cases with ⟨empty, -, -⟩ | ⟨-, address, size⟩
  · rw [certificateTable, write_eq_nil_iff, List.map_eq_nil_iff] at empty
    exact (filled empty).elim
  · rw [tableAt, address, size, h.table, List.take_length]

section
variable {image : Image} {path : String} {w₀ w₁ : World}

/-- An image keeps the path that it is read from. -/
theorem path_of_ofFile {raw : Bytes} (h : ofFile path raw = .ok image) : image.path = path := by
  unfold ofFile at h
  obtain ⟨parts, -, h⟩ := Outcome.bind_eq_ok.1 h
  obtain ⟨contents, -, h⟩ := Outcome.bind_eq_ok.1 h
  obtain ⟨stored, -, h⟩ := Outcome.bind_eq_ok.1 h
  rw [← Outcome.pure_eq_ok.1 h]

/-- Without signatures none can be written on its own. -/
theorem write_detached_of_empty (image : Image) (unsigned : image.signatures.items = [])
    (out : String) (w : World) :
    image.write true out w = (.error (.failure (.output (.nothingToDetach image.path out))), w) := by
  have last : image.signatures.lastIndex? = none := by
    rw [Store.lastIndex?, Store.count, unsigned]
    rfl
  unfold write
  rw [if_pos rfl, last]
  rfl

/-- The newest signature is written by itself exactly if the files take it. -/
theorem exists_write_detached_iff {x : StoredSignature} {w : World}
    (newest : image.signatures.items.getLast? = some x) :
    (∃ m w', image.write true path w = (.ok m, w')) ↔ w.files.Takes path := by
  obtain ⟨last, stored⟩ := Store.get_of_getLast? newest
  rw [← exists_writeFile_iff (b := x.der)]
  unfold write writeDetached
  rw [if_pos rfl, last]
  dsimp only
  rw [stored]
  constructor
  · rintro ⟨m, w', ran⟩
    obtain ⟨⟨⟩, w₁, written, -⟩ := Run.bind_eq_ok.1 ran
    exact ⟨w₁, written⟩
  · rintro ⟨w₁, written⟩
    exact ⟨_, _, Run.bind_of_ok written⟩

/-- All of an image is written exactly if its octets can be put together and the files take them. -/
theorem exists_write_combined_iff {w : World} : (∃ n w', image.write false path w = (.ok n, w')) ↔
    (∃ out, image.toBytes = .ok out) ∧ w.files.Takes path := by
  unfold write writeCombined
  rw [if_neg (by simp)]
  constructor
  · rintro ⟨n, w', ran⟩
    obtain ⟨⟨⟩, w₁, combined, -⟩ := Run.bind_eq_ok.1 ran
    obtain ⟨out, w₂, lifted, written⟩ := Run.bind_eq_ok.1 combined
    obtain ⟨whole, rfl⟩ := Run.lift_eq_ok.1 lifted
    exact ⟨⟨out, whole⟩, exists_writeFile_iff.1 ⟨w₁, written⟩⟩
  · rintro ⟨⟨out, whole⟩, takes⟩
    obtain ⟨w₁, written⟩ := (exists_writeFile_iff (b := out)).2 takes
    have lifted : Run.lift Fault.defect image.toBytes w = (.ok out, w) :=
      Run.lift_eq_ok.2 ⟨whole, rfl⟩
    exact ⟨_, _, Run.bind_of_ok ((Run.bind_of_ok lifted).trans written)⟩

/-- **The two outputs agree.** Take an image that was loaded, with any signatures added. Written by
itself, the newest signature is the file, and it counts as one. Written whole, the image ends in a table
with as many entries as are counted. They hold the signatures, in order, each filled up with zeros, so the
last one is the octets of the other file and fewer than eight zeros. Without signatures there is nothing to
write by itself, and nothing is written. -/
theorem outputs_agree (found : load path w₀ = (.ok image, w₁)) (added : List StoredSignature) :
    (image.signatures.items ++ added = [] → ∀ out w, (image.addAll added).write true out w
      = (.error (.failure (.output (.nothingToDetach path out))), w)) ∧
    ∀ p w m w' q v n v', image.signatures.items ++ added ≠ [] →
      (image.addAll added).write true p w = (.ok m, w') →
      (image.addAll added).write false q v = (.ok n, v') →
      ∃ e x target at' whole contents, image.entry = (e : Nat) ∧
        (image.signatures.items ++ added).getLast? = some x ∧
        m = 1 ∧ w.files.IsPut w'.files p x.der target ∧ v.files.IsPut v'.files q whole at' ∧
        CertificateTable.read (tableAt whole e) = ⟨.ok contents, []⟩ ∧ n = contents.length ∧
        List.Forall₂ (fun y b => IsFilledUp y.der b) (image.signatures.items ++ added) contents ∧
        ∃ k < 8, contents.getLast? = some (x.der ++ zeros k) := by
  obtain ⟨raw, -, found, -⟩ := exists_ofFile_of_load found
  obtain ⟨c, e, laid⟩ := isLaidOut_of_ofFile found
  rw [addAll_eq]
  set items := image.signatures.items ++ added
  constructor
  · intro unsigned out w
    rw [write_detached_of_empty _ unsigned, path_of_ofFile found]
  · intro p w m w' q v n v' filled alone together
    obtain ⟨x, newest⟩ := Option.ne_none_iff_exists'.1 (mt List.getLast?_eq_none_iff.1 filled)
    rcases write_detached_cases newest alone with ⟨_, here, -⟩ | ⟨target, one, put⟩
    · cases here
    · rcases write_combined_cases together with ⟨_, here, -⟩ | ⟨whole, at', count, written, put'⟩
      · cases here
      · -- the checksum stands far before the entry, so it leaves the stated place alone
        have apart : c + 4 ≤ e := by
          have far := laid.fields.entry_ge
          omega
        have shape : IsWrittenAs { image with signatures := ⟨items⟩ } c e whole :=
          isWrittenAs laid.checksum laid.entry apart written
        obtain ⟨k, few, fill⟩ := (isFilledUp_padded x.der).exists_lt
        refine ⟨e, x, target, at', whole, items.map fun y => padded y.der, laid.entry, newest,
          Except.ok.inj one, put, put', ?_, ?_, forall₂_padded items, k, few, ?_⟩
        · rw [shape.tableAt_eq filled, certificateTable,
            read_write (length_certificateTable_lt shape), List.map_map]
          rfl
        · rw [List.length_map]
          exact Except.ok.inj count
        · rw [List.getLast?_map, newest, ← fill]
          rfl

end

/-- The short surroundings take what is written to their file. -/
theorem takes_surroundingsWith (b : Bytes) : (surroundingsWith b).files.Takes "i" := by
  obtain ⟨noNull, relative, shown⟩ : FileSystem.hasNull "i" = false ∧
      "i".startsWith "/" = false ∧ FileSystem.names "i" = [] ++ ["i"] := by
    decide +kernel
  have walked : FileSystem.walk (surroundingsWith b).files
      ((surroundingsWith b).files.base "i") [] = .ok (.present [] .directory) := by
    rw [FileSystem.base, relative]
    rfl
  have room : FileSystem.HasRoom "i" := by
    unfold FileSystem.HasRoom
    decide +kernel
  refine ⟨noNull, room, ["i"], ⟨[], [], "i", shown, by decide, walked, rfl⟩, ?_⟩
  simp [surroundingsWith, World.initial, FileSystem.lookup, FileSystem.findEntry]

/-- The short image, signed by the short key, is written in both ways. -/
theorem outputs_agree_shortImage : ∃ image s w₁ w' v' e whole b,
    load "i" (surroundingsWith shortImage) = (.ok image, w₁) ∧
    (image.addAll [.decoded s]).write true "i" (surroundingsWith shortImage) = (.ok 1, w') ∧
    (image.addAll [.decoded s]).write false "i" (surroundingsWith shortImage) = (.ok 1, v') ∧
    w'.files.read "i" = .ok s.der ∧ v'.files.read "i" = .ok whole ∧ image.entry = (e : Nat) ∧
    CertificateTable.read (tableAt whole e) = ⟨.ok [b], []⟩ ∧ IsFilledUp s.der b := by
  obtain ⟨image, c, s, w', regions, out, found, -, -, -, written, -, unsigned, -⟩ :=
    exists_of_stands stands_shortImage
  obtain ⟨w₁, ran⟩ := (exists_load_iff (read_surroundingsWith shortImage)).2 found
  have takes := takes_surroundingsWith shortImage
  have items : (image.addAll [.decoded s]).signatures.items = [.decoded s] := by
    rw [addAll_eq, unsigned]
    rfl
  obtain ⟨m, w₂, alone⟩ := (exists_write_detached_iff (by rw [items]; rfl)).2 takes
  obtain ⟨n, v₂, together⟩ := (@exists_write_combined_iff (image.addAll [.decoded s]) _ _).2
    ⟨⟨out, written⟩, takes⟩
  obtain ⟨e, x, target, at', whole, contents, entry, newest, rfl, put, put', table, rfl, agree, -⟩ :=
    (outputs_agree ran [.decoded s]).2 "i" _ m w₂ "i" _ n v₂ (by simp) alone together
  rw [unsigned] at newest agree
  obtain rfl : StoredSignature.decoded s = x := by simpa using newest
  obtain ⟨b, others, filled, rest, rfl⟩ := List.forall₂_cons_left_iff.1 agree
  obtain rfl := List.forall₂_nil_left_iff.1 rest
  have plain : FileSystem.simplify "i" = "i" := by
    decide +kernel
  have read := put.read
  have read' := put'.read
  rw [plain] at read read'
  exact ⟨image, s, w₁, w₂, v₂, e, whole, b, ran, alone, together, read, read', entry, table, filled⟩

end Image

end ImageSigning
