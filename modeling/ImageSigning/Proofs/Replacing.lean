import ImageSigning.Proofs.FileSystem

/-!
# What replacing a file changes

A file is replaced through a temporary one in its directory. The temporary file has a name that nothing
has, so that taking it away again leaves the files as they were, and giving it its name leaves one change:
the new octets at the place that the path names.

* **`LeadsTo`** — the place that a path names, in a directory that is there.
* **`IsPut`** — files that differ in that place alone.
* **`replace_cases`** — files are left as they are, or differ so.
* **`IsPut.find`** — what was found elsewhere is found there still.
-/

namespace ImageSigning.FileSystem

variable {fs : FileSystem} {target : Location}

/-! ## Replacing -/

/-- The place that a path names: a name, and not the way up, in a directory that the other names lead
to from where the path starts. -/
def LeadsTo (fs : FileSystem) (path : String) (target : Location) : Prop :=
  ∃ l ds name, names path = ds ++ [name] ∧ name ≠ ".." ∧
    walk fs (fs.base path) ds = .ok (.present l .directory) ∧ target = l ++ [name]

/-- A path that names a place does not name the root. -/
theorem LeadsTo.ne_nil {path : String} (h : fs.LeadsTo path target) : target ≠ [] := by
  obtain ⟨l, ds, name, -, -, -, rfl⟩ := h
  simp

/-- Files in which octets were put where a path leads, in place of a file or of nothing. -/
structure IsPut (fs fs' : FileSystem) (path : String) (data : Bytes) (target : Location) : Prop where
  leads : fs.LeadsTo path target
  free : fs.lookup target ≠ some .directory
  eq : fs' = fs.put target (.file ⟨data, outputMode, none⟩)
  read : fs'.read (simplify path) = .ok data

/-- A file that is replaced is put where its path leads; otherwise the files are left as they were. -/
theorem replace_cases (fs : FileSystem) (path : String) (data : Bytes) :
    (∃ p, fs.replace path data = (.error p, fs)) ∨
    ∃ fs' target, fs.replace path data = (.ok (), fs') ∧ fs.IsPut fs' path data target := by
  rcases replaced : fs.replace path data with ⟨p | ⟨⟩, fs'⟩
  · left
    refine ⟨p, ?_⟩
    obtain rfl : fs' = fs := by
      unfold replace at replaced
      split at replaced
      · exact (Prod.mk.inj replaced).2.symm
      · dsimp only at replaced
        split at replaced
        · exact (Prod.mk.inj replaced).2.symm
        · rename_i l t written made
          split at replaced
          · cases (Prod.mk.inj replaced).1
          · obtain ⟨-, -, -, fresh, ⟨name, rfl⟩, rfl⟩ := makeTemporary_eq_ok made
            have proper : l ++ [name] ≠ [] := by simp
            rw [← (Prod.mk.inj replaced).2, remove_put proper fresh]
    rfl
  · right
    obtain ⟨l, ds, name, shown, walked, notUp, -, -, free, rfl⟩ := exists_of_replace replaced
    refine ⟨_, l ++ [name], rfl, ⟨l, ds, name, shown, notUp, walked, rfl⟩, free, rfl, ?_⟩
    exact read_of_replace replaced

/-! ## What is found elsewhere -/

section
variable {fs' : FileSystem} {path : String} {data : Bytes}

/-- Elsewhere stands what stood there. -/
theorem IsPut.lookup (h : fs.IsPut fs' path data target) {l : Location} (other : l ≠ target) :
    fs'.lookup l = fs.lookup l := by
  rw [h.eq, lookup_put _ _ _ _ h.leads.ne_nil, if_neg other]

/-- Every directory is still there. -/
theorem IsPut.directory (h : fs.IsPut fs' path data target) {l : Location}
    (here : fs.lookup l = some .directory) : fs'.lookup l = some .directory := by
  rw [h.eq]
  exact lookup_put_of_directory h.leads.ne_nil h.free here

/-- What a path finds elsewhere is found there still. -/
theorem IsPut.find (h : fs.IsPut fs' path data target) {path' : String} {place : Location} {found : Entry}
    (other : place ≠ target) (here : fs.find path' = .ok (.present place found)) :
    fs'.find path' = .ok (.present place found) := by
  have base : fs'.base path' = fs.base path' := by rw [h.eq, base_put]
  unfold FileSystem.find at here ⊢
  split at here
  · cases here
  · rename_i filled
    split at here
    · cases here
    · rename_i short
      rw [if_neg filled, if_neg short, base]
      exact walk_of_kept (fun _ => h.directory) (fun stands => by rw [h.lookup other, stands]) here

end

end ImageSigning.FileSystem
