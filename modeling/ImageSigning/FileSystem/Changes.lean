import ImageSigning.FileSystem

/-!
# Changes of files

What became of the files while something ran, and how files are set out in the first place.

* `FileSystem.changes`: the files that differ, by location.
* `FileSystem.place`: a file together with the directories that lead to it.
-/

namespace ImageSigning.FileSystem

/-- Whether two files can be told apart by their content or their permissions. -/
def differs (f g : File) : Bool := f.data ≠ g.data || f.mode ≠ g.mode

/-- The files that are new or different afterwards, and without a file those that are gone. -/
def changes (before after : FileSystem) : List (Location × Option File) :=
  let changed := after.entries.filterMap fun (l, e) =>
    match e, before.lookup l with
    | .file f, some (.file g) => if differs f g then some (l, some f) else none
    | .file f, _ => some (l, some f)
    | .directory, _ => none
  let gone := before.entries.filterMap fun (l, e) =>
    match e, after.lookup l with
    | .file _, some (.file _) => none
    | .file _, _ => some (l, none)
    | .directory, _ => none
  changed ++ gone

/-- The places that the names of a path lead to one after the other, whatever stands there. -/
def placesAlong (fs : FileSystem) (path : String) : List Location :=
  (names path).scanl step (fs.base path)

/-- Where the names of a path lead, whatever stands there. -/
def placeOf (fs : FileSystem) (path : String) : Location :=
  (names path).foldl step (fs.base path)

/-- The files with directories at all beginnings of a location where nothing stands yet. -/
def withParents (fs : FileSystem) (l : Location) : FileSystem :=
  (List.range l.length).foldl (fun fs n =>
    if (fs.lookup (l.take n)).isSome then fs else fs.put (l.take n) .directory) fs

/-- The files with something at a location and the directories that lead to it. -/
def place (fs : FileSystem) (l : Location) (e : Entry) : FileSystem := (fs.withParents l).put l e

/-- Nothing changed where each entry is the first at its location. -/
theorem changes_self (fs : FileSystem) (h : ∀ l e, (l, e) ∈ fs.entries → fs.lookup l = some e) :
    fs.changes fs = [] := by
  simp only [changes, List.append_eq_nil_iff, List.filterMap_eq_nil_iff]
  constructor <;> rintro ⟨l, e⟩ m <;> have same := h l e m <;> cases e <;> simp [same, differs]

end ImageSigning.FileSystem
