import ImageSigning.InputFile
import ImageSigning.Proofs.Outcome

/-!
# Reading a file that was written

A file that was written is found at its path without the names that lead nowhere. Finding a place
depends on the directories on the way alone, and writing leaves every directory where it was.

* **`walk_of_kept`** — a walk depends on the directories on the way and on what it ends at.
* **`walk_append`** — behind a directory it goes on from there.
* **`find_ofNames`** — finding what a path leads to goes by its names.
* **`read_of_replace`** — after a file was written, reading its path gives what was written.
-/

namespace ImageSigning.FileSystem

variable {fs fs' : FileSystem} {l : Location}

/-! ## Walking to a directory and on -/

/-- A walk that ends at a directory begins at one. -/
theorem lookup_of_walk {names : List String} {start : Location}
    (h : walk fs start names = .ok (.present l .directory)) : fs.lookup start = some .directory := by
  cases names with
  | nil =>
    rw [walk] at h
    split at h
    · rename_i e here
      obtain ⟨rfl, rfl⟩ := by simpa using h
      exact here
    · cases h
  | cons name names =>
    rw [walk] at h
    split at h
    · cases h
    · cases h
    · rename_i here
      exact here

/-- A walk from where no directory is ends there. -/
theorem end_of_walk {d found : Entry} {names : List String} {start place : Location}
    (free : fs.lookup start ≠ some .directory) (there : fs.lookup start = some d)
    (h : walk fs start names = .ok (.present place found)) : place = start ∧ found = d := by
  cases names with
  | nil =>
    rw [walk, there] at h
    obtain ⟨rfl, rfl⟩ : start = place ∧ d = found := by simpa using h
    exact ⟨rfl, rfl⟩
  | cons name names =>
    rw [walk] at h
    split at h
    · cases h
    · cases h
    · rename_i here
      exact (free here).elim

/-- A walk goes the same way in other files that have all the directories and what it ends at. -/
theorem walk_of_kept {names : List String} {start place : Location} {found : Entry}
    (kept : ∀ m, fs.lookup m = some .directory → fs'.lookup m = some .directory)
    (there : fs.lookup place = some found → fs'.lookup place = some found)
    (h : walk fs start names = .ok (.present place found)) :
    walk fs' start names = .ok (.present place found) := by
  induction names generalizing start with
  | nil =>
    rw [walk] at h ⊢
    split at h
    · rename_i e here
      obtain ⟨rfl, rfl⟩ : start = place ∧ e = found := by simpa using h
      rw [there here]
    · cases h
  | cons name names ih =>
    rw [walk] at h ⊢
    split at h
    · cases h
    · cases h
    · rename_i here
      rw [kept _ here]
      dsimp only at h ⊢
      split at h
      · rename_i idle
        rw [if_pos idle]
        exact ih h
      · rename_i moves
        rw [if_neg moves]
        split at h
        · cases h
        · rename_i fits
          rw [if_neg fits]
          split at h
          · rename_i up
            rw [if_pos up]
            exact ih h
          · rename_i down
            rw [if_neg down]
            split at h
            · split at h <;> cases h
            · rename_i d next
              -- What is met is a directory, or else the walk ends with it.
              obtain ⟨e, still⟩ : ∃ e, fs'.lookup (step start name) = some e := by
                by_cases isDirectory : fs.lookup (step start name) = some .directory
                · exact ⟨_, kept _ isDirectory⟩
                · obtain ⟨rfl, rfl⟩ := end_of_walk isDirectory next h
                  exact ⟨_, there next⟩
              rw [still]
              exact ih h

/-- Behind a walk to a directory, further names lead where they lead from there. -/
theorem walk_append {names : List String} {start : Location}
    (found : walk fs start names = .ok (.present l .directory)) (more : List String) :
    walk fs start (names ++ more) = walk fs l more := by
  induction names generalizing start with
  | nil =>
    have here := lookup_of_walk found
    rw [walk, here] at found
    obtain rfl : start = l := by simpa using found
    rfl
  | cons name names ih =>
    have here := lookup_of_walk found
    rw [walk, here] at found
    rw [List.cons_append, walk, here]
    dsimp only at found ⊢
    split at found
    · rename_i idle
      rw [if_pos idle]
      exact ih found
    · rename_i moves
      rw [if_neg moves]
      split at found
      · cases found
      · rename_i fits
        rw [if_neg fits]
        split at found
        · rename_i up
          rw [if_pos up]
          exact ih found
        · rename_i down
          rw [if_neg down]
          split at found
          · split at found <;> cases found
          · exact ih found

/-- A directory stands where a walk to one ends. -/
theorem lookup_end_of_walk {names : List String} {start : Location}
    (found : walk fs start names = .ok (.present l .directory)) : fs.lookup l = some .directory := by
  have ended := walk_append found []
  rw [List.append_nil, found] at ended
  exact lookup_of_walk ended.symm

/-- From a directory, a name that leads down leads to what stands under it. -/
theorem walk_name {name : String} {e : Entry} (here : fs.lookup l = some .directory)
    (there : fs.lookup (l ++ [name]) = some e) (proper : name ∉ ["", ".", ".."])
    (short : octets name ≤ maxName) : walk fs l [name] = .ok (.present (l ++ [name]) e) := by
  simp only [List.mem_cons, List.not_mem_nil, or_false, not_or] at proper
  obtain ⟨filled, moves, down⟩ := proper
  have next : step l name = l ++ [name] := if_neg down
  simp only [walk, here, filled, moves, down, or_self, if_false, Nat.not_lt.2 short, next, there]

/-- From a directory, a name that leads nowhere makes no difference. -/
theorem walk_idle {start : Location} {name : String} (idle : name = "" ∨ name = ".")
    (here : fs.lookup start = some .directory) (names : List String) :
    walk fs start (name :: names) = walk fs start names := by
  rw [walk, here]
  dsimp only
  rw [if_pos idle]

/-! ## The names of a simplified path -/

/-- Joined names begin with the first. -/
theorem toList_join_cons (separator : Char) (p : String) (ps : List String) :
    ∃ rest, (Text.join separator (p :: ps)).toList = p.toList ++ rest := by
  unfold Text.join
  rw [String.toList_ofList, List.map_cons]
  cases ps with
  | nil => exact ⟨[], by simp [List.intercalate]⟩
  | cons q ps =>
    refine ⟨separator :: [separator].intercalate ((q :: ps).map (·.toList)), ?_⟩
    simp [List.intercalate]

/-- One more name stands behind a separator. -/
theorem toList_join_append (separator : Char) {ps : List String} (filled : ps ≠ []) (q : String) :
    (Text.join separator (ps ++ [q])).toList
      = (Text.join separator ps).toList ++ separator :: q.toList := by
  unfold Text.join
  rw [String.toList_ofList, String.toList_ofList, List.map_append]
  induction ps with
  | nil => exact (filled rfl).elim
  | cons p ps ih =>
    cases ps with
    | nil => simp [List.intercalate]
    | cons r ps =>
      have rest := ih (List.cons_ne_nil _ _)
      simp only [List.intercalate, List.map_cons, List.cons_append, List.intersperse_cons_cons,
        List.flatten_cons, List.append_assoc] at rest ⊢
      rw [rest]

/-- A character of joined names is the separator or one of theirs. -/
theorem mem_toList_join {separator c : Char} {ps : List String}
    (h : c ∈ (Text.join separator ps).toList) : c = separator ∨ ∃ p ∈ ps, c ∈ p.toList := by
  induction ps with
  | nil => simp [Text.join, List.intercalate] at h
  | cons p ps ih =>
    cases ps with
    | nil =>
      rw [Text.join, String.toList_ofList] at h
      exact .inr ⟨p, by simp, by simpa [List.intercalate] using h⟩
    | cons q ps =>
      simp only [Text.join, String.toList_ofList, List.intercalate, List.map_cons,
        List.intersperse_cons_cons, List.flatten_cons, List.mem_append] at h ih
      rcases h with here | sep | rest
      · exact .inr ⟨p, by simp, here⟩
      · exact .inl (by simpa using sep)
      · rcases ih rest with sep | ⟨r, m, here⟩
        · exact .inl sep
        · exact .inr ⟨r, List.mem_cons_of_mem _ m, here⟩

/-- A character of a part is one of the whole. -/
theorem mem_of_mem_partsOf {separator c : Char} {cs p : List Char}
    (h : p ∈ Text.partsOf separator cs) (m : c ∈ p) : c ∈ cs := by
  induction cs generalizing p with
  | nil =>
    obtain rfl : p = [] := by simpa using h
    exact m
  | cons d cs ih =>
    by_cases here : d = separator
    · subst here
      rw [Text.partsOf_cons_self, List.mem_cons] at h
      rcases h with rfl | h
      · simp at m
      · exact List.mem_cons_of_mem _ (ih h m)
    · simp only [Text.partsOf, Text.cut_cons_of_ne _ here, List.mem_cons] at h
      rcases h with rfl | h
      · rcases List.mem_cons.1 m with rfl | m
        · exact List.mem_cons_self ..
        · exact List.mem_cons_of_mem _ (ih (by simp [Text.partsOf]) m)
      · exact List.mem_cons_of_mem _ (ih (by simp [Text.partsOf, h]) m)

/-- A name of a path is a part of it that leads somewhere. -/
theorem names_spec {path name : String} (h : name ∈ names path) :
    name ≠ "" ∧ name ≠ "." ∧ '/' ∉ name.toList ∧ ∀ c ∈ name.toList, c ∈ path.toList := by
  obtain ⟨part, proper⟩ := List.mem_filter.1 h
  obtain ⟨filled, moves⟩ : name ≠ "" ∧ name ≠ "." := by simpa using proper
  refine ⟨filled, moves, Text.not_mem_of_mem_parts part, fun c here => ?_⟩
  obtain ⟨cs, found, rfl⟩ := List.mem_map.1 part
  rw [String.toList_ofList] at here
  exact mem_of_mem_partsOf found here

/-- A name of a path is not empty, and no slash is in it. -/
theorem filled_of_mem_names {path name : String} (h : name ∈ names path) :
    name ≠ "" ∧ '/' ∉ name.toList :=
  have spec := names_spec h
  ⟨spec.1, spec.2.2.1⟩

/-- A path that shows its root starts there, and one without starts at the working directory. -/
theorem rootOf_cases (path : String) :
    (path.startsWith "/" = true ∧ (rootOf path = "/" ∨ rootOf path = "//")) ∨
      (path.startsWith "/" = false ∧ rootOf path = "") := by
  have starts : path.startsWith "/" = true ↔ ['/'] <+: path.toList := by
    rw [String.startsWith_string_iff]
    rfl
  unfold rootOf
  split
  · rename_i cs shown
    exact .inl ⟨starts.2 ⟨'/' :: '/' :: cs, shown.symm⟩, .inl rfl⟩
  · rename_i cs _ shown
    exact .inl ⟨starts.2 ⟨'/' :: cs, shown.symm⟩, .inr rfl⟩
  · rename_i cs _ _ shown
    exact .inl ⟨starts.2 ⟨cs, shown.symm⟩, .inl rfl⟩
  · rename_i none
    refine .inr ⟨Bool.eq_false_iff.2 fun slash => ?_, rfl⟩
    obtain ⟨cs, shown⟩ := starts.1 slash
    exact none cs shown.symm

/-- Behind a slash a path has the parts that it has without it, after one that is empty. -/
theorem parts_slash (path : String) : Text.parts '/' ("/" ++ path) = "" :: Text.parts '/' path := by
  have shown : ("/" ++ path).toList = '/' :: path.toList := by simp [String.toList_append]
  rw [Text.parts, Text.parts, shown, Text.partsOf_cons_self, List.map_cons]

/-- A path made of names that lead somewhere does not start at the root by itself. -/
theorem startsWith_join {ns : List String} (proper : ∀ n ∈ ns, n ≠ "" ∧ '/' ∉ n.toList) :
    (Text.join '/' ns).startsWith "/" = false := by
  rw [Bool.eq_false_iff]
  intro starts
  rw [String.startsWith_string_iff] at starts
  obtain ⟨cs, shown⟩ : ['/'] <+: (Text.join '/' ns).toList := starts
  cases ns with
  | nil => simp [Text.join, List.intercalate] at shown
  | cons n ns =>
    obtain ⟨filled, apart⟩ := proper n (List.mem_cons_self ..)
    obtain ⟨rest, joined⟩ := toList_join_cons '/' n ns
    rw [joined] at shown
    cases head : n.toList with
    | nil => exact filled (String.toList_eq_nil_iff.1 head)
    | cons c cs' =>
      rw [head] at shown
      obtain rfl := (List.cons.inj shown).1
      exact apart (by simp [head])

/-- A path made of names is that of the names behind its beginning, or of none in the working
directory. -/
theorem ofNames_eq {root : String} {ns : List String} (filled : ns ≠ [] ∨ root ≠ "")
    (proper : ∀ n ∈ ns, n ≠ "" ∧ '/' ∉ n.toList) :
    ofNames root ns = root ++ Text.join '/' ns ∧ ofNames root ns ≠ "" := by
  have something : root ++ Text.join '/' ns ≠ "" := by
    intro nothing
    obtain ⟨noRoot, noNames⟩ : root = "" ∧ Text.join '/' ns = "" := by
      simpa [← String.toList_eq_nil_iff, String.toList_append] using nothing
    cases ns with
    | nil => simp_all
    | cons n ns =>
      obtain ⟨rest, joined⟩ := toList_join_cons '/' n ns
      rw [noNames, String.toList_empty, List.nil_eq, List.append_eq_nil_iff] at joined
      exact (proper n (List.mem_cons_self ..)).1 (String.toList_eq_nil_iff.1 joined.1)
  rw [ofNames, if_neg something]
  exact ⟨rfl, something⟩

/-- A path that begins with a slash starts at the root. -/
theorem startsWith_slash (rest : String) : ("/" ++ rest).startsWith "/" = true := by
  rw [String.startsWith_string_iff, String.toList_append]
  exact List.prefix_append _ _

/-- Behind the beginning of a path, another one that starts nowhere by itself leads where it leads from where
the path starts. -/
theorem walk_rootOf {path rest : String} (relative : rest.startsWith "/" = false) :
    walk fs (fs.base (rootOf path ++ rest)) (Text.parts '/' (rootOf path ++ rest)) =
      walk fs (fs.base path) (Text.parts '/' rest) := by
  have top : fs.lookup [] = some .directory := if_pos rfl
  unfold base
  rcases rootOf_cases path with ⟨absolute, root | root⟩ | ⟨nowhere, root⟩
  · rw [root, startsWith_slash, absolute, parts_slash]
    exact walk_idle (.inl rfl) top _
  · have twice : "//" ++ rest = "/" ++ ("/" ++ rest) := by
      rw [← String.append_assoc]
      rfl
    rw [root, twice, startsWith_slash, absolute, parts_slash, parts_slash]
    exact (walk_idle (.inl rfl) top _).trans (walk_idle (.inl rfl) top _)
  · rw [root, String.empty_append, relative, nowhere]

/-- The names of a path, one after the other behind its beginning, lead where they lead from where the
path starts. -/
theorem find_ofNames {path : String} {ns : List String} (filled : ns ≠ [])
    (proper : ∀ n ∈ ns, n ≠ "" ∧ '/' ∉ n.toList) (fs : FileSystem) :
    fs.find (ofNames (rootOf path) ns) =
      if maxPath < octets (ofNames (rootOf path) ns) then .error .nameTooLong
      else walk fs (fs.base path) ns := by
  obtain ⟨shown, something⟩ := @ofNames_eq (rootOf path) ns (.inl filled) proper
  obtain ⟨n, ns', rfl⟩ := List.exists_cons_of_ne_nil filled
  have parts : Text.parts '/' (Text.join '/' (n :: ns')) = n :: ns' :=
    Text.parts_join fun m here => (proper m here).2
  rw [find, if_neg something]
  refine if_congr Iff.rfl rfl ?_
  rw [shown, walk_rootOf (startsWith_join proper), parts]

/-- The beginning of a path leads to the directory that the path starts from. -/
theorem find_ofNames_nil {path : String} : fs.find (ofNames (rootOf path) []) =
    .ok (.present l .directory) ↔ walk fs (fs.base path) [] = .ok (.present l .directory) := by
  -- The path that names nothing is a point where the beginning is empty, and nothing at all otherwise.
  obtain ⟨idle, shown, nowhere, alone, rest⟩ : ∃ rest : String,
      ofNames (rootOf path) [] = rootOf path ++ rest ∧ rest.startsWith "/" = false ∧
        Text.parts '/' rest = [rest] ∧ (rest = "" ∨ rest = ".") := by
    rcases rootOf_cases path with ⟨-, root | root⟩ | ⟨-, root⟩ <;> rw [root]
    · exact ⟨"", by decide +kernel⟩
    · exact ⟨"", by decide +kernel⟩
    · exact ⟨".", by decide +kernel⟩
  obtain ⟨something, short⟩ : ofNames (rootOf path) [] ≠ "" ∧
      octets (ofNames (rootOf path) []) ≤ maxPath := by
    rcases rootOf_cases path with ⟨-, root | root⟩ | ⟨-, root⟩ <;> rw [root] <;> decide +kernel
  rw [find, if_neg something, if_neg (Nat.not_lt.2 short), shown, walk_rootOf nowhere, alone]
  constructor
  · intro found
    rwa [walk_idle rest (lookup_of_walk found)] at found
  · intro walked
    rwa [walk_idle rest (lookup_of_walk walked)]

/-- What the beginning of a path and some names make up leads to a directory exactly if it is not too
long and the names lead there. -/
theorem find_ofNames_eq_directory {path : String} {ds : List String}
    (proper : ∀ n ∈ ds, n ≠ "" ∧ '/' ∉ n.toList) :
    fs.find (ofNames (rootOf path) ds) = .ok (.present l .directory) ↔
      octets (ofNames (rootOf path) ds) ≤ maxPath ∧
        walk fs (fs.base path) ds = .ok (.present l .directory) := by
  cases ds with
  | nil =>
    have short : octets (ofNames (rootOf path) []) ≤ maxPath := by
      rcases rootOf_cases path with ⟨-, root | root⟩ | ⟨-, root⟩ <;> rw [root] <;> decide +kernel
    rw [find_ofNames_nil, and_iff_right short]
  | cons d ds =>
    rw [find_ofNames (List.cons_ne_nil d ds) proper]
    split
    · rename_i long
      simp [Nat.not_le.2 long]
    · rename_i short
      simp [Nat.not_lt.1 short]

/-! ## Files in the working directory -/

/-- A name that leads to what has it in the working directory. -/
def IsPlain (name : String) : Prop :=
  hasNull name = false ∧ simplify name = name ∧ name.startsWith "/" = false ∧
    Text.parts '/' name = [name] ∧ octets name ≤ maxName ∧ name ∉ ["", ".", ".."]

instance (name : String) : Decidable (IsPlain name) := by
  unfold IsPlain
  infer_instance

/-- A plain name finds the file that has it in the working directory. -/
theorem find_of_isPlain {name : String} {f : File} (plain : IsPlain name)
    (inside : fs.lookup fs.working = some .directory)
    (found : fs.lookup (fs.working ++ [name]) = some (.file f)) :
    fs.find name = .ok (.present (fs.working ++ [name]) (.file f)) := by
  obtain ⟨-, -, relative, parts, short, proper⟩ := plain
  have filled : name ≠ "" := fun same => proper (by simp [same])
  have short' : octets name ≤ maxPath := Nat.le_trans short (by decide)
  have start : fs.base name = fs.working := by simp [base, relative]
  rw [find, if_neg filled, if_neg (Nat.not_lt.2 short'), start, parts]
  exact walk_name inside found proper short

/-- A file in the working directory is read under its name. -/
theorem read_of_isPlain {name : String} {f : File} (plain : IsPlain name)
    (inside : fs.lookup fs.working = some .directory)
    (found : fs.lookup (fs.working ++ [name]) = some (.file f)) : fs.read name = .ok f.data := by
  rw [read, plain.1, find_of_isPlain plain inside found]
  rfl

/-- A file in the working directory is there under its name as an input. -/
theorem octets_of_isPlain {role : FileRole} {name : String} {f : File} (plain : IsPlain name)
    (inside : fs.lookup fs.working = some .directory)
    (found : fs.lookup (fs.working ++ [name]) = some (.file f)) :
    InputFile.octets fs role name = .ok f.data := by
  have there := find_of_isPlain plain inside found
  have read := read_of_isPlain plain inside found
  obtain ⟨noNull, simple, -⟩ := plain
  rw [InputFile.octets, leadsSomewhere, read, noNull, simple, there]
  rfl

/-! ## Writing -/

/-- A temporary file is made in the directory that a path leads to, under a name that nothing has. -/
theorem makeTemporary_eq_ok {parent name : String} {data : Bytes} {temporary : Location}
    (h : fs.makeTemporary parent name data = .ok (l, temporary, fs')) :
    octets parent + 1 + octets (temporaryName name 0) ≤ maxPath ∧
      octets (temporaryName name 0) ≤ maxName ∧ fs.directory parent = .ok l ∧
      fs.lookup temporary = none ∧ (∃ t, temporary = l ++ [t]) ∧
      fs' = fs.put temporary (.file ⟨data, temporaryMode, none⟩) := by
  unfold makeTemporary at h
  rw [Outcome.failUnless_eq_ok] at h
  obtain ⟨short, h⟩ := h
  obtain ⟨l', found, h⟩ := Outcome.bind_eq_ok.1 h
  rw [Outcome.failUnless_eq_ok] at h
  obtain ⟨short', h⟩ := h
  split at h
  · cases h
  · rename_i t fresh
    have parts := Outcome.pure_eq_ok.1 h
    simp only [Prod.mk.injEq] at parts
    obtain ⟨rfl, rfl, rfl⟩ := parts
    refine ⟨Nat.not_lt.1 short, Nat.not_lt.1 short', found, ?_, ⟨t, rfl⟩, rfl⟩
    simpa using List.find?_some fresh

/-- A temporary file gets a name that leads down and that no directory has. -/
theorem settle_eq_ok {temporary : Location} {name : String}
    (h : fs.settle l temporary name = .ok fs') :
    name ≠ "" ∧ name ≠ ".." ∧ fs.lookup (l ++ [name]) ≠ some .directory ∧
      ∃ f, fs.lookup temporary = some (.file f) ∧
        fs' = (fs.remove temporary).put (l ++ [name]) (.file ⟨f.data, outputMode, none⟩) := by
  unfold settle at h
  split at h
  · cases h
  · rename_i proper
    rw [not_or] at proper
    dsimp only at h
    split at h
    · cases h
    · rename_i f found other
      obtain rfl := Except.ok.inj h
      exact ⟨proper.1, proper.2, other, f, found, rfl⟩
    · cases h

/-- The directory that a path leads to is what the path finds. -/
theorem directory_eq_ok {path : String} :
    fs.directory path = .ok l ↔ fs.find path = .ok (.present l .directory) := by
  unfold directory
  rcases fs.find path with e | ⟨m, e⟩ | m
  · simp
  · cases e <;> simp
  · simp

/-- A text of two parts has the octets of both. -/
theorem octets_append (a b : String) : octets (a ++ b) = octets a + octets b := by
  unfold octets Utf8.encode
  rw [String.toList_append, List.flatMap_append, List.length_append]

/-- The name of a temporary file is longer than that of the file that it becomes. -/
theorem octets_temporaryName_gt (name : String) : octets name < octets (temporaryName name 0) := by
  have point : octets "." = 1 := by decide +kernel
  unfold temporaryName
  simp only [octets_append, toString, point]
  omega

/-- The path of a name in a directory is longer than that of the directory by a slash at most. -/
theorem octets_ofNames_append_le (root : String) (ds : List String) (name : String) :
    octets (ofNames root (ds ++ [name])) ≤ octets (ofNames root ds) + 1 + octets name := by
  have point : octets "." = 1 := by decide +kernel
  have nothing : octets "" = 0 := by decide +kernel
  have atLeast (ns : List String) : octets root + octets (Text.join '/' ns) ≤ octets (ofNames root ns) := by
    rw [ofNames, ← octets_append]
    split
    · rename_i nothing'
      rw [nothing', nothing]
      exact Nat.zero_le _
    · exact Nat.le_refl _
  have joined : octets (Text.join '/' (ds ++ [name])) ≤ octets (Text.join '/' ds) + 1 + octets name := by
    cases ds with
    | nil =>
      have alone : Text.join '/' ([] ++ [name]) = name := by simp [Text.join, List.intercalate]
      rw [alone]
      omega
    | cons d ds =>
      have slash : (String.utf8EncodeChar '/').length = 1 := by decide
      have size := congrArg (fun cs => (List.flatMap String.utf8EncodeChar cs).length)
        (toList_join_append '/' (List.cons_ne_nil d ds) name)
      rw [List.flatMap_append, List.length_append, List.flatMap_cons, List.length_append,
        slash] at size
      change octets (Text.join '/' (d :: ds ++ [name]))
        = octets (Text.join '/' (d :: ds)) + (1 + octets name) at size
      omega
  have front := atLeast ds
  rw [ofNames]
  split
  · rw [point]
    omega
  · rw [octets_append]
    omega

/-- Entries are as they were once what was set where nothing stood is dropped. -/
theorem dropEntry_putEntry {place : Location} {e : Entry} {es : List (Location × Entry)}
    (fresh : findEntry place es = none) : dropEntry place (putEntry place e es) = es := by
  induction es with
  | nil => simp [putEntry, dropEntry]
  | cons p es ih =>
    rw [findEntry] at fresh
    split at fresh
    · cases fresh
    · rename_i other
      rw [putEntry, if_neg other, dropEntry, if_neg other, ih fresh]

/-- Taking away what was put where nothing was leaves the files as they were. -/
theorem remove_put {place : Location} {e : Entry} (proper : place ≠ [])
    (fresh : fs.lookup place = none) : (fs.put place e).remove place = fs := by
  rw [lookup, if_neg proper] at fresh
  rw [remove, put, dropEntry_putEntry fresh]

/-- A file that was replaced has a path without the character that ends paths. -/
theorem hasNull_of_replace {path : String} {data : Bytes} (h : (fs.replace path data).1 = .ok ()) :
    hasNull path = false := by
  unfold replace at h
  split at h
  · cases h
  · rename_i noNull
    exact Bool.eq_false_iff.2 noNull

/-- A file that is put where no directory stands leaves all directories. -/
theorem lookup_put_of_directory {target m : Location} {f : File} (proper : target ≠ [])
    (free : fs.lookup target ≠ some .directory) (here : fs.lookup m = some .directory) :
    (fs.put target (.file f)).lookup m = some .directory := by
  have other : m ≠ target := by
    rintro rfl
    exact free here
  rw [lookup_put _ _ _ _ proper, if_neg other, here]

/-- What a successful replacement did: the names of the path are those of a directory and one more, no
directory's, under which the new octets are put. -/
theorem exists_of_replace {path : String} {data : Bytes} (h : fs.replace path data = (.ok (), fs')) :
    ∃ l ds name, names path = ds ++ [name] ∧
      walk fs (fs.base path) ds = .ok (.present l .directory) ∧
      name ≠ ".." ∧ octets (temporaryName name 0) ≤ maxName ∧
      octets (ofNames (rootOf path) ds) + 1 + octets (temporaryName name 0) ≤ maxPath ∧
      fs.lookup (l ++ [name]) ≠ some .directory ∧
      fs' = fs.put (l ++ [name]) (.file ⟨data, outputMode, none⟩) := by
  unfold replace at h
  split at h
  · cases h
  · dsimp only at h
    generalize named : (names path).getLast?.getD "" = name at h
    split at h
    · cases h
    · rename_i l temporary written made
      split at h
      · rename_i settled done
        obtain ⟨-, rfl⟩ := Prod.mk.inj h
        obtain ⟨room, short, found, fresh, ⟨t, rfl⟩, rfl⟩ := makeTemporary_eq_ok made
        obtain ⟨filled, notUp, notDirectory, f, there, rfl⟩ := settle_eq_ok done
        have temporary : l ++ [t] ≠ [] := by simp
        rw [lookup_put _ _ _ _ temporary, if_pos rfl] at there
        obtain rfl : (⟨data, temporaryMode, none⟩ : File) = f := by simpa using there
        have last : (names path).getLast? = some name := by
          rcases last : (names path).getLast? with _ | n
          · rw [last] at named
            exact (filled named.symm).elim
          · rw [last] at named
            rw [← named]
            rfl
        have split : names path = (names path).dropLast ++ [name] :=
          (List.dropLast_append_getLast? name last).symm
        obtain ⟨-, walked⟩ := (find_ofNames_eq_directory fun n m =>
          filled_of_mem_names (List.dropLast_subset _ m)).1 (directory_eq_ok.1 found)
        refine ⟨l, (names path).dropLast, name, split, walked, notUp, short, room, ?_, ?_⟩
        · intro here
          rw [lookup_put _ _ _ _ temporary] at notDirectory
          split at notDirectory
          · rename_i same
            rw [same, fresh] at here
            cases here
          · exact notDirectory here
        · rw [remove_put temporary fresh]
      · cases h

/-- After a file was written, reading its path gives what was written. -/
theorem read_of_replace {path : String} {data : Bytes} (h : fs.replace path data = (.ok (), fs')) :
    fs'.read (simplify path) = .ok data := by
  have noNull := hasNull_of_replace (congrArg Prod.fst h)
  obtain ⟨l, ds, name, shown, walked, notUp, short, room, free, rfl⟩ := exists_of_replace h
  have target : l ++ [name] ≠ [] := by simp
  have there : (fs.put (l ++ [name]) (.file ⟨data, outputMode, none⟩)).lookup (l ++ [name])
      = some (.file ⟨data, outputMode, none⟩) := by
    rw [lookup_put _ _ _ _ target, if_pos rfl]
  have kept := fun m => lookup_put_of_directory (f := ⟨data, outputMode, none⟩) target free (m := m)
  have here := lookup_end_of_walk walked
  have walked' := walk_of_kept kept (kept _) walked
  have proper : ∀ n ∈ ds ++ [name], n ≠ "" ∧ '/' ∉ n.toList := fun n m =>
    filled_of_mem_names (shown ▸ m)
  have simplified : simplify path = ofNames (rootOf path) (ds ++ [name]) := by rw [simplify, shown]
  have noNull' : hasNull (simplify path) = false := by
    unfold hasNull at noNull ⊢
    rw [Bool.eq_false_iff, ne_eq, List.contains_iff_mem] at noNull ⊢
    intro m
    rw [simplified, (ofNames_eq (.inl (by simp)) proper).1, String.toList_append,
      List.mem_append] at m
    rcases m with root | m
    · rcases rootOf_cases path with ⟨-, same | same⟩ | ⟨-, same⟩ <;> rw [same] at root <;>
        revert root <;> decide
    · rcases mem_toList_join m with slash | ⟨n, here, m⟩
      · revert slash
        decide
      · exact noNull ((names_spec (shown ▸ here)).2.2.2 _ m)
  have down : name ∉ ["", ".", ".."] := by
    have spec := names_spec (shown ▸ List.mem_append_right _ (List.mem_singleton_self _))
    simp [spec.1, spec.2.1, notUp]
  have fits : octets name ≤ maxName :=
    Nat.le_trans (Nat.le_of_lt (octets_temporaryName_gt name)) short
  have length : octets (ofNames (rootOf path) (ds ++ [name])) ≤ maxPath := by
    have whole := octets_ofNames_append_le (rootOf path) ds name
    have longer := octets_temporaryName_gt name
    omega
  unfold read
  rw [noNull', simplified, find_ofNames (by simp) proper, if_neg (Nat.not_lt.2 length), base_put,
    walk_append walked', walk_name (kept _ here) there down fits]
  rfl

end ImageSigning.FileSystem
