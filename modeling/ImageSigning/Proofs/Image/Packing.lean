import ImageSigning.Output
import ImageSigning.Proofs.Defects
import ImageSigning.Proofs.Image.Acceptance

/-!
# Images that cannot be loaded or written

Loading ends with a defect at a path that no file can have, or at the first entry that is refused. Putting
an image together with its signatures ends with a defect in two ways. A number does not fit the four
octets that it has: the size of the image, the size of the table, or the checksum. Or the headers, which
could be read in the file, cannot be read in the octets that are to be written: headers of sections may
lie in the certificate table or behind the image, and there the new table takes the place of what was
read.

* **`loaded_eq_defect`** — the two ways in which loading ends with a defect.
* **`toBytes_eq_error`** — the two ways in which putting together does.
* **`writeTo_defectsIn`** — writing ends with one of these, or at a path that no file can have.
-/

namespace ImageSigning.Image

open Bytes

/-! ## Loading -/

section
variable {fs : FileSystem} {path : String} {raw : Bytes} {d : Defect}

/-- Reading is refused for the character that ends paths exactly if the path holds it. -/
theorem read_eq_nullCharacter :
    fs.read path = .error .nullCharacter ↔ FileSystem.hasNull path = true := by
  unfold FileSystem.read
  by_cases null : FileSystem.hasNull path = true
  · simp [null]
  · rw [if_neg null]
    split <;> simp [null]

/-- The table of a file has an entry that is refused with a defect, and no earlier one is refused. -/
def RefusedIn (path : String) (raw : Bytes) (d : Defect) : Prop :=
  ∃ parts contents before b after, split path raw = .ok parts ∧
    (CertificateTable.read parts.table).contents = .ok contents ∧ contents = before ++ b :: after ∧
    (∀ x ∈ before, ¬ IsRefused x) ∧ storedOf b = .error (.defect d)

/-- An image is refused with a defect exactly for what the list of refusals says. -/
theorem ofFile_eq_defect : ofFile path raw = .error (.defect d) ↔ RefusedIn path raw d := by
  unfold RefusedIn
  rcases divided : split path raw with p | parts
  · simp [ofFile, divided, Except.mapError, Outcome.error_bind]
  · rcases entries : (CertificateTable.read parts.table).contents with p | contents
    · simp [ofFile, divided, entries, Except.mapError, Outcome.ok_bind, Outcome.error_bind]
    · have mapped {r : Except Fault (List (List StoredSignature))}
          {g : List (List StoredSignature) → Image} :
          r.map g = .error (.defect d) ↔ r = .error (.defect d) := by
        rcases r with f | xss <;> simp [Except.map]
      rw [ofFile_of_split divided entries, mapped, Outcome.mapM_eq_error_iff]
      simp only [exists_storedOf_iff, Except.ok.injEq]
      constructor
      · rintro ⟨before, b, after, shape, earlier, here⟩
        exact ⟨parts, contents, before, b, after, rfl, entries, shape, earlier, here⟩
      · rintro ⟨_, contents', before, b, after, rfl, entries', shape, earlier, here⟩
        obtain rfl := Except.ok.inj (entries.symm.trans entries')
        exact ⟨before, b, after, shape, earlier, here⟩

/-- Loading ends with a defect exactly at a path that holds the character that ends paths, or at the
first entry that is refused. -/
theorem loaded_eq_defect : loaded fs path = .error (.defect d) ↔
    (FileSystem.hasNull path = true ∧ d = .nullCharacter) ∨
    ∃ raw, fs.read path = .ok raw ∧ RefusedIn path raw d := by
  unfold loaded
  rw [Outcome.bind_eq_error, Outcome.mapError_eq_error]
  simp only [Outcome.mapError_eq_ok, ofFile_eq_defect]
  refine or_congr ?_ Iff.rfl
  rw [← @read_eq_nullCharacter fs]
  constructor
  · rintro ⟨_ | _, failed, shown⟩
    · cases shown
    · exact ⟨failed, (Fault.defect.inj shown).symm⟩
  · rintro ⟨failed, rfl⟩
    exact ⟨_, failed, rfl⟩

end

/-! ## Putting together -/

section
variable {image : Image} {c e : Nat} {d : Defect}

/-- A number in the headers does not fit: one of the sizes or the checksum. -/
def IsTooLarge (image : Image) (e : Nat) : Prop :=
  2 ^ 32 ≤ image.data.length ∨ 2 ^ 32 ≤ image.certificateTable.length ∨
    ∃ sum, Checksum.checksum (image.unsealed e) = .ok sum ∧ 2 ^ 32 ≤ sum

/-- The headers cannot be read any more where the table stands behind the image. -/
def LosesHeaders (image : Image) (e : Nat) : Prop :=
  ∃ p, Headers.read (image.unsealed e) = .error p

/-- A checksum is lacking exactly where the headers are not read. -/
theorem checksum_eq_error {b : Bytes} {p : HeaderProblem} :
    Checksum.checksum b = .error p ↔ Headers.read b = .error p := by
  unfold Checksum.checksum
  rcases Headers.read b with q | h <;> simp [Except.map]

/-- A number of more than four octets cannot be written. -/
theorem patchNumbers_of_large {data : Bytes} {offset : Int} {numbers : List Nat}
    (large : ∃ n ∈ numbers, 2 ^ 32 ≤ n) :
    patchNumbers data offset numbers = .error .fieldMisplaced := by
  obtain ⟨n, m, many⟩ := large
  have found : numbers.any (0x100000000 ≤ ·) = true := by
    rw [List.any_eq_true]
    exact ⟨n, m, by simpa using many⟩
  unfold patchNumbers
  rw [if_pos found]
  rfl

/-- Numbers whose place lies inside the octets are written there unless one is too large. -/
theorem patchNumbers_eq_error {data : Bytes} {offset : Nat} {numbers : List Nat}
    (inside : offset + 4 * numbers.length ≤ data.length) (near : offset < 2 ^ 63) :
    patchNumbers data offset numbers = .error d ↔
      (∃ n ∈ numbers, 2 ^ 32 ≤ n) ∧ d = .fieldMisplaced := by
  by_cases large : ∃ n ∈ numbers, 2 ^ 32 ≤ n
  · rw [patchNumbers_of_large large]
    simp only [Except.error.injEq, large, true_and, eq_comm]
  · have small : ∀ n ∈ numbers, n < 2 ^ 32 := fun n m => by
      by_contra many
      exact large ⟨n, m, by omega⟩
    rw [patchNumbers_eq_ok.2 ⟨small, inside, near, rfl⟩]
    simp only [reduceCtorEq, large, false_and]

/-- The checksum is written unless the headers are lost or it is too large. -/
theorem seal_eq_error (apart : c + 4 ≤ e) (inside : e + 8 ≤ image.data.length)
    (near : e < 2 ^ 63) :
    (((Checksum.checksum (image.unsealed e)).mapError fun _ => Defect.notImage) >>=
      fun sum => patchNumbers (image.unsealed e) c [sum]) = .error d ↔
      ((∃ sum, Checksum.checksum (image.unsealed e) = .ok sum ∧ 2 ^ 32 ≤ sum) ∧
        d = .fieldMisplaced) ∨ (image.LosesHeaders e ∧ d = .notImage) := by
  have length := length_unsealed inside
  rcases summed : Checksum.checksum (image.unsealed e) with p | sum
  · have lost : image.LosesHeaders e := ⟨p, checksum_eq_error.1 summed⟩
    simp [Except.mapError, Outcome.error_bind, lost, eq_comm]
  · have kept : ¬ image.LosesHeaders e := by
      rintro ⟨p, read⟩
      rw [checksum_eq_error.2 read] at summed
      cases summed
    change patchNumbers (image.unsealed e) c [sum] = _ ↔ _
    rw [patchNumbers_eq_error (by rw [length, List.length_singleton]; omega) (by omega)]
    simp [kept]

/-- Putting together fills the checksum in once the table's place fits. -/
theorem toBytes_eq_seal (checksum : image.checksum = c) (entry : image.entry = e)
    (inside : e + 8 ≤ image.data.length) (near : e < 2 ^ 63)
    (small : ∀ n ∈ image.tablePlace, n < 2 ^ 32) : image.toBytes =
      (((Checksum.checksum (image.unsealed e)).mapError fun _ => Defect.notImage) >>=
        fun sum => patchNumbers (image.unsealed e) c [sum]) := by
  have goes : patchNumbers image.data e image.tablePlace
      = .ok (patch image.data e (numberOctets image.tablePlace)) := by
    refine patchNumbers_eq_ok.2 ⟨small, ?_, near, rfl⟩
    rw [length_tablePlace]
    exact inside
  have start : image.toBytes = patchNumbers image.data e image.tablePlace >>= fun patched =>
      ((Checksum.checksum (patched ++ image.certificateTable)).mapError fun _ => Defect.notImage) >>=
        fun sum => patchNumbers (patched ++ image.certificateTable) c [sum] := by
    rw [← entry, ← checksum]
    rfl
  rw [start, goes, Outcome.ok_bind]
  rfl

/-- An image with a signature whose fields lie inside it is put together unless a number does not fit or
the headers are lost. -/
theorem toBytes_eq_error (checksum : image.checksum = c) (entry : image.entry = e) (apart : c + 4 ≤ e)
    (inside : e + 8 ≤ image.data.length) (filled : image.certificateTable ≠ []) :
    image.toBytes = .error d ↔ (image.IsTooLarge e ∧ d = .fieldMisplaced) ∨
      (¬ image.IsTooLarge e ∧ image.LosesHeaders e ∧ d = .notImage) := by
  have place : image.tablePlace = [image.data.length, image.certificateTable.length] := by
    unfold tablePlace
    rw [if_neg (by simpa using filled)]
  by_cases large : 2 ^ 32 ≤ image.data.length ∨ 2 ^ 32 ≤ image.certificateTable.length
  · have counts : image.IsTooLarge e := large.elim .inl fun here => .inr (.inl here)
    have misfit : patchNumbers image.data image.entry image.tablePlace = .error .fieldMisplaced :=
      patchNumbers_of_large (by rw [place]; simpa using large)
    have failed : image.toBytes = .error .fieldMisplaced := Outcome.bind_eq_error.2 (.inl misfit)
    rw [failed]
    simp [counts, eq_comm]
  · have small : image.data.length < 2 ^ 32 ∧ image.certificateTable.length < 2 ^ 32 := by omega
    have counts : image.IsTooLarge e ↔
        ∃ sum, Checksum.checksum (image.unsealed e) = .ok sum ∧ 2 ^ 32 ≤ sum := by
      unfold IsTooLarge
      rw [← or_assoc, or_iff_right large]
    -- a checksum is only known of octets with headers
    have once (h : image.LosesHeaders e) : ¬ image.IsTooLarge e := by
      obtain ⟨p, read⟩ := h
      intro tooLarge
      obtain ⟨sum, summed, -⟩ := counts.1 tooLarge
      rw [checksum_eq_error.2 read] at summed
      cases summed
    rw [toBytes_eq_seal checksum entry inside (by omega) (by rw [place]; simpa using small),
      seal_eq_error apart inside (by omega)]
    rw [counts] at once ⊢
    exact or_congr Iff.rfl ⟨fun h => ⟨once h.1, h⟩, fun h => h.2⟩

end

/-! ## Writing -/

section
variable {path : String} {w : World}

/-- Writing a file ends with a defect only at a path that holds the character that ends paths. -/
theorem writeFile_defectsIn {b : Bytes} : Run.DefectsIn (fun d =>
    FileSystem.hasNull path = true ∧ d = .nullCharacter) (writeFile path b) w := by
  intro d w' ran
  unfold writeFile at ran
  rw [Run.bind_of_ok (Run.get_eq_ok.2 ⟨rfl, rfl⟩)] at ran
  dsimp only at ran
  rcases replaced : w.files.replace path b with ⟨⟨e | _⟩ | ⟨⟩, fs'⟩
  · rw [replaced] at ran
    cases ran
  · rw [replaced] at ran
    obtain rfl := Fault.defect.inj (Except.error.inj (Prod.mk.inj ran).1)
    exact ⟨FileSystem.replace_eq_nullCharacter replaced, rfl⟩
  · rw [replaced] at ran
    cases ran

/-- Writing an image ends with a defect only at the path, or where the image cannot be put together and
more than a signature is asked for. -/
theorem writeTo_defectsIn {image : Image} {detached : Bool} : Run.DefectsIn (fun d =>
    (FileSystem.hasNull path = true ∧ d = .nullCharacter) ∨
      (detached = false ∧ image.toBytes = .error d)) (image.writeTo detached (.text path)) w := by
  unfold writeTo write writeDetached writeCombined
  refine Run.DefectsIn.ite (fun _ => ?_) fun combined => ?_
  · split
    · exact Run.defectsIn_fail _
    · refine Run.DefectsIn.bind ?_ fun _ w₁ _ => ?_
      · split
        · exact Run.defectsIn_fail _
        · exact writeFile_defectsIn.mono fun d null => .inl null
      · exact (Run.defectsIn_tell _).bind fun _ w₂ _ => Run.defectsIn_pure _
  · refine Run.DefectsIn.bind (Run.DefectsIn.bind ?_ fun out w₁ _ => ?_) fun _ w₁ _ => ?_
    · refine Run.defectsIn_lift fun x d failed shown => .inr ⟨Bool.eq_false_iff.2 combined, ?_⟩
      rw [failed, Fault.defect.inj shown]
    · exact writeFile_defectsIn.mono fun d null => .inl null
    · exact (Run.defectsIn_tell _).bind fun _ w₂ _ => Run.defectsIn_pure _

/-- An image that cannot be put together is not written, wherever to. -/
theorem writeTo_of_misfit {image : Image} {d : Defect} {v : Value}
    (misfit : image.toBytes = .error d) : image.writeTo false v w = (.error (.defect d), w) := by
  have failed : Run.lift .defect image.toBytes w = (.error (.defect d), w) := by
    rw [Run.lift_eq, misfit]
    rfl
  cases v with
  | text path => exact Run.bind_of_error (Run.bind_of_error failed)
  | _ => exact Run.bind_of_error (Run.bind_of_error failed)

end

end ImageSigning.Image
