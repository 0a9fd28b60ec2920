import ImageSigning.Output
import ImageSigning.Proofs.Replacing
import ImageSigning.Proofs.Run

/-!
# Writing all or nothing

Writing the result of signing replaces one file, after everything that can go wrong; what is told
afterwards cannot go wrong. So a fault leaves the files as they were.

* **`writeFile_cases`** — a file is written, or nothing changes.
* **`Image.write_detached_cases`**, **`Image.write_combined_cases`** — each of the two ways to write.
* **`Image.writeTo_cases`** — an image is written, or its newest signature, or nothing changes.
-/

namespace ImageSigning

section
variable {w w' : World}

/-- A file is written, or nothing changes. -/
theorem writeFile_cases {path : String} {b : Bytes} {o : Except Fault Unit}
    (h : writeFile path b w = (o, w')) : (∃ f, o = .error f ∧ w' = w) ∨
      ∃ target, o = .ok () ∧ w.files.IsPut w'.files path b target := by
  unfold writeFile at h
  rw [Run.bind_of_ok (Run.get_eq_ok.2 ⟨rfl, rfl⟩)] at h
  dsimp only at h
  rcases w.files.replace_cases path b with ⟨p, replaced⟩ | ⟨fs', target, replaced, put⟩
  · rw [replaced] at h
    cases p with
    | system e =>
      obtain ⟨rfl, rfl⟩ := Prod.mk.inj h
      exact .inl ⟨_, rfl, rfl⟩
    | nullCharacter =>
      obtain ⟨rfl, rfl⟩ := Prod.mk.inj h
      exact .inl ⟨_, rfl, rfl⟩
  · rw [replaced] at h
    obtain ⟨rfl, rfl⟩ := Prod.mk.inj h
    exact .inr ⟨target, rfl, put⟩

/-- A file is written and something told of it, or nothing changes. -/
theorem writeFile_tell_cases {path : String} {b : Bytes} {e : Event} {n : Nat} {o : Except Fault Nat}
    (h : (writeFile path b >>= fun _ => Run.tell e >>= fun _ => pure n) w = (o, w')) :
    (∃ f, o = .error f ∧ w' = w) ∨ ∃ target, o = .ok n ∧ w.files.IsPut w'.files path b target := by
  rcases Run.bind_cases h with ⟨f, rfl, failed⟩ | ⟨_, w₁, written, h⟩
  · rcases writeFile_cases failed with ⟨_, -, rfl⟩ | ⟨_, here, -⟩
    · exact .inl ⟨f, rfl, rfl⟩
    · cases here
  · rcases writeFile_cases written with ⟨_, here, -⟩ | ⟨target, -, put⟩
    · cases here
    · obtain ⟨rfl, rfl⟩ := Prod.mk.inj h
      exact .inr ⟨target, rfl, put⟩

/-- The signature with the last number is the newest. -/
theorem Store.get_of_getLast? {s : Store} {x : StoredSignature} (newest : s.items.getLast? = some x) :
    s.lastIndex? = some (s.count - 1) ∧ s.get (s.count - 1 : Nat) = some x := by
  obtain ⟨before, shown⟩ := List.getLast?_eq_some_iff.1 newest
  have count : s.count = before.length + 1 := by
    rw [Store.count, shown, List.length_append]
    rfl
  constructor
  · rw [Store.lastIndex?, if_neg (by omega)]
  · rw [Store.get, if_neg (by omega), shown, count]
    simp

namespace Image

/-- The newest signature is written by itself, or nothing changes. -/
theorem write_detached_cases {image : Image} {x : StoredSignature} {path : String}
    {o : Except Fault Nat} (newest : image.signatures.items.getLast? = some x)
    (h : image.write true path w = (o, w')) :
    (∃ f, o = .error f ∧ w' = w) ∨ ∃ target, o = .ok 1 ∧ w.files.IsPut w'.files path x.der target := by
  obtain ⟨last, stored⟩ := Store.get_of_getLast? newest
  unfold write writeDetached at h
  rw [if_pos rfl, last] at h
  dsimp only at h
  rw [stored] at h
  exact writeFile_tell_cases h

/-- All of an image is written, or nothing changes. -/
theorem write_combined_cases {image : Image} {path : String} {o : Except Fault Nat}
    (h : image.write false path w = (o, w')) : (∃ f, o = .error f ∧ w' = w) ∨
      ∃ out target, o = .ok image.signatures.count ∧ image.toBytes = .ok out ∧
        w.files.IsPut w'.files path out target := by
  unfold write writeCombined at h
  rw [if_neg (by simp)] at h
  rcases whole : image.toBytes with d | out
  · rw [Run.bind_of_error (Run.bind_of_error (by rw [Run.lift_eq, whole]; rfl))] at h
    obtain ⟨rfl, rfl⟩ := Prod.mk.inj h
    exact .inl ⟨_, rfl, rfl⟩
  · rw [bind_assoc, Run.bind_of_ok (Run.lift_eq_ok.2 ⟨whole, rfl⟩)] at h
    rcases writeFile_tell_cases h with unchanged | ⟨target, rfl, put⟩
    · exact .inl unchanged
    · exact .inr ⟨out, target, rfl, rfl, put⟩

/-- What is written of an image with a signature added is the signature by itself or all of the image;
or nothing changes. -/
theorem writeTo_cases {image : Image} {x : StoredSignature} {detached : Bool} {v : Value}
    {o : Except Fault Nat} (h : (image.append x).writeTo detached v w = (o, w')) :
    (∃ f, o = .error f ∧ w' = w) ∨
    ∃ n path out target, o = .ok n ∧ v = .text path ∧ w.files.IsPut w'.files path out target ∧
      (detached = true → out = x.der) ∧
      (detached = false → (image.append x).toBytes = .ok out) := by
  unfold writeTo at h
  split at h
  · rename_i path
    cases detached with
    | true =>
      have newest : (image.append x).signatures.items.getLast? = some x := by
        simp [append, Store.append]
      rcases write_detached_cases newest h with unchanged | ⟨target, rfl, put⟩
      · exact .inl unchanged
      · exact .inr ⟨1, path, x.der, target, rfl, rfl, put, fun _ => rfl, by simp⟩
    | false =>
      rcases write_combined_cases h with unchanged | ⟨out, target, rfl, whole, put⟩
      · exact .inl unchanged
      · exact .inr ⟨_, path, out, target, rfl, rfl, put, by simp, fun _ => whole⟩
  · left
    split at h
    · rcases whole : (image.append x).toBytes with d | out
      · rw [whole] at h
        obtain ⟨rfl, rfl⟩ := Prod.mk.inj h
        exact ⟨_, rfl, rfl⟩
      · rw [whole] at h
        obtain ⟨rfl, rfl⟩ := Prod.mk.inj h
        exact ⟨_, rfl, rfl⟩
    · obtain ⟨rfl, rfl⟩ := Prod.mk.inj h
      exact ⟨_, rfl, rfl⟩

end Image

end

end ImageSigning
