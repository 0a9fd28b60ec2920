import ImageSigning.Output
import ImageSigning.Proofs.Defects
import ImageSigning.Proofs.Replacing
import ImageSigning.Proofs.Run
import Mathlib.Data.List.Nodup
import Mathlib.Data.List.Perm.Subperm

/-!
# Writing in a system that may refuse

A file is replaced step by step: a temporary file is made and filled, it gets its permissions, and then
its name. Some steps fail because of what the files are; each of them may also fail for reasons of the
system, such as a device that is full. Whatever step fails, all that was done until then was done to the
temporary file. That one stood where nothing was, so taking it away leaves the files as they were.

* **`replace_eq_ok_iff`** — when a file is replaced; the temporary file always finds a name.
* **`exists_writeFile_iff`** — when a file is written in a run.
* **`replaceUnder`** — replacing a file where the system may refuse a step; `replaceUnder_none` says that
  it is the replacing that runs if the system does not.
* **`replaceUnder_eq`** — a refusal leaves all as it was, and else the file is replaced as usual.
* **`Write.runAll_atomic`** — what becomes of any writes one after the other.
-/

namespace ImageSigning

namespace FileSystem

variable {fs fs' : FileSystem} {target : Location}

/-! ## A name for the temporary file -/

/-- The digits in the name of a temporary file. -/
def numerals (n : Nat) : List Char :=
  List.replicate (8 - (toString n).length) '0' ++ Nat.toDigits 10 n

/-- The name of a temporary file is a point, the name, another point, digits and an ending. -/
theorem toList_temporaryName (name : String) (n : Nat) :
    (temporaryName name n).toList
      = ((".".toList ++ name.toList) ++ ".".toList) ++ (numerals n ++ ".tmp".toList) := by
  unfold temporaryName numerals
  simp only [toString, String.toList_append, String.toList_ofList, List.append_assoc,
    Nat.toList_repr]

/-- Temporary files with different numbers have different names. -/
theorem temporaryName_injective (name : String) : Function.Injective (temporaryName name) := by
  intro m n same
  have chars := congrArg String.toList same
  rw [toList_temporaryName, toList_temporaryName] at chars
  have digits : numerals m = numerals n :=
    List.append_cancel_right (List.append_cancel_left chars)
  -- the zeros in front do not change the number that the digits spell
  have spelled (k : Nat) : Nat.ofDigitChars 10 (numerals k) 0 = k := by
    rw [numerals, Nat.ofDigitChars_append, Nat.ofDigitChars_replicate_zero, Nat.mul_zero]
    exact Nat.ofDigitChars_ten_toDigits
  rw [← spelled m, digits, spelled n]

/-- What stands at a location is among the entries. -/
theorem mem_of_findEntry {es : List (Location × Entry)} {e : Entry}
    (h : findEntry target es = some e) : target ∈ es.map Prod.fst := by
  induction es with
  | nil => simp [findEntry] at h
  | cons p es ih =>
    rw [findEntry] at h
    split at h
    · rename_i here
      rw [← here]
      exact List.mem_cons_self
    · exact List.mem_cons_of_mem _ (ih h)

/-- There is always a name that nothing has: one more is tried than there are entries. -/
theorem exists_freshName (fs : FileSystem) (l : Location) (name : String) :
    ∃ t, fs.freshName? l name = some t := by
  rw [← Option.isSome_iff_exists, Option.isSome_iff_ne_none]
  intro allTaken
  rw [freshName?, List.find?_eq_none] at allTaken
  let tried := (List.range (fs.entries.length + 1)).map fun n => l ++ [temporaryName name n]
  have apart : tried.Nodup := by
    refine List.Nodup.map ?_ List.nodup_range
    intro m n same
    exact temporaryName_injective name (by simpa using same)
  have taken : tried ⊆ fs.entries.map Prod.fst := by
    intro target m
    obtain ⟨n, small, rfl⟩ := List.mem_map.1 m
    have there := allTaken (temporaryName name n) (List.mem_map_of_mem small)
    have here : l ++ [temporaryName name n] ≠ [] := by simp
    obtain ⟨e, found⟩ := Option.ne_none_iff_exists'.1 (by simpa using there)
    rw [lookup, if_neg here] at found
    exact mem_of_findEntry found
  have few := (apart.subperm taken).length_le
  rw [List.length_map, List.length_map, List.length_range] at few
  omega

/-! ## When a file is replaced -/

/-- The temporary file for a path has a name and a path that are not too long. -/
def HasRoom (path : String) : Prop :=
  let ns := names path
  let temporary := octets (temporaryName (ns.getLast?.getD "") 0)
  temporary ≤ maxName ∧ octets (ofNames (rootOf path) ns.dropLast) + 1 + temporary ≤ maxPath

/-- The files take what is written to a path: it is a path that leaves room for the temporary file, and
it leads to a place where no directory stands. -/
def Takes (fs : FileSystem) (path : String) : Prop :=
  hasNull path = false ∧ HasRoom path ∧ ∃ target, fs.LeadsTo path target ∧ fs.lookup target ≠ some .directory

/-- A temporary file is made where there is room for it. -/
theorem makeTemporary_of_room {l : Location} {parent name : String} (data : Bytes)
    (there : fs.directory parent = .ok l)
    (short : octets (temporaryName name 0) ≤ maxName)
    (room : octets parent + 1 + octets (temporaryName name 0) ≤ maxPath) :
    ∃ t, fs.lookup (l ++ [t]) = none ∧ fs.makeTemporary parent name data
      = .ok (l, l ++ [t], fs.put (l ++ [t]) (.file ⟨data, temporaryMode, none⟩)) := by
  obtain ⟨t, fresh⟩ := fs.exists_freshName l name
  refine ⟨t, by simpa using List.find?_some fresh, ?_⟩
  rw [makeTemporary, if_neg (Nat.not_lt.2 room), there]
  simp only [Outcome.ok_bind, if_neg (Nat.not_lt.2 short), fresh]
  rfl

/-- A temporary file gets its name, whatever permissions it had, unless that is no name or a directory
has it. -/
theorem settle_put {l : Location} {t : String} (name : String) (data : Bytes) (mode : Nat)
    (fresh : fs.lookup (l ++ [t]) = none) :
    (fs.put (l ++ [t]) (.file ⟨data, mode, none⟩)).settle l (l ++ [t]) name =
      if name = "" ∨ name = ".." then .error .busy
      else if fs.lookup (l ++ [name]) = some .directory then .error .isDirectory
      else .ok (fs.put (l ++ [name]) (.file ⟨data, outputMode, none⟩)) := by
  have temporary : l ++ [t] ≠ [] := by simp
  have there : (fs.put (l ++ [t]) (.file ⟨data, mode, none⟩)).lookup (l ++ [t])
      = some (.file ⟨data, mode, none⟩) := by
    rw [lookup_put _ _ _ _ temporary, if_pos rfl]
  have stands : (fs.put (l ++ [t]) (.file ⟨data, mode, none⟩)).lookup (l ++ [name])
      = some .directory ↔ fs.lookup (l ++ [name]) = some .directory := by
    rw [lookup_put _ _ _ _ temporary]
    split
    · rename_i same
      rw [same, fresh]
      simp
    · exact Iff.rfl
  unfold settle
  by_cases nameless : name = "" ∨ name = ".."
  · rw [if_pos nameless, if_pos nameless]
  · rw [if_neg nameless, if_neg nameless]
    dsimp only
    rw [there]
    by_cases taken : fs.lookup (l ++ [name]) = some .directory
    · rw [if_pos taken, stands.2 taken]
    · rw [if_neg taken]
      split
      · rename_i directory
        exact (taken (stands.1 directory)).elim
      · rename_i same _
        obtain rfl := Entry.file.inj (Option.some.inj same)
        rw [remove_put temporary fresh]
      · rename_i other
        exact (other _ rfl).elim

/-- A file is replaced exactly if the files take what is written to its path. -/
theorem replace_eq_ok_iff {path : String} (data : Bytes) :
    (fs.replace path data).1 = .ok () ↔ fs.Takes path := by
  constructor
  · intro done
    obtain ⟨l, ds, name, shown, walked, notUp, short, room, free, -⟩ :=
      @exists_of_replace fs _ path data (Prod.ext done rfl)
    refine ⟨hasNull_of_replace done, ?_, _, ⟨l, ds, name, shown, notUp, walked, rfl⟩, free⟩
    unfold HasRoom
    rw [shown]
    simpa using And.intro short room
  · rintro ⟨noNull, room, _, ⟨l, ds, name, shown, notUp, walked, rfl⟩, free⟩
    unfold HasRoom at room
    rw [shown] at room
    obtain ⟨short, room⟩ : octets (temporaryName name 0) ≤ maxName ∧
        octets (ofNames (rootOf path) ds) + 1 + octets (temporaryName name 0) ≤ maxPath := by
      simpa using room
    have proper : ∀ n ∈ ds ++ [name], n ≠ "" ∧ '/' ∉ n.toList := fun n m =>
      filled_of_mem_names (shown ▸ m)
    have there : fs.directory (ofNames (rootOf path) ds) = .ok l :=
      directory_eq_ok.2 ((find_ofNames_eq_directory fun n m =>
        proper n (List.mem_append_left _ m)).2 ⟨by omega, walked⟩)
    obtain ⟨t, fresh, made⟩ := makeTemporary_of_room data there short room
    have settled := settle_put name data temporaryMode fresh
    rw [if_neg (not_or.2 ⟨(proper name (by simp)).1, notUp⟩), if_neg free] at settled
    unfold replace
    rw [if_neg (by simp [noNull]), shown]
    simp only [List.getLast?_append, List.getLast?_singleton, Option.some_or, Option.getD_some,
      List.dropLast_concat, made, settled]

/-! ## Steps that the system refuses -/

/-- A step of replacing a file that the system refuses. -/
inductive Interruption where
  /-- The temporary file is not made. -/
  | creating
  /-- Of the octets, only the first are written. -/
  | filling (count : Nat)
  /-- The temporary file does not get its permissions. -/
  | permitting
  /-- The temporary file does not get its name. -/
  | naming
  deriving DecidableEq, Repr

/-- Fills a temporary file, gives it its permissions and then its name, up to what the system refuses:
the outcome, and the files then. -/
def finish (fs : FileSystem) (stop : Option (Interruption × SystemError))
    (directory temporary : Location) (name : String) (data : Bytes) :
    Except SystemError Unit × FileSystem :=
  let holding (b : Bytes) (mode : Nat) := fs.put temporary (.file ⟨b, mode, none⟩)
  match stop with
  | some (.filling count, e) => (.error e, holding (data.take count) temporaryMode)
  | some (.permitting, e) => (.error e, holding data temporaryMode)
  | some (.naming, e) => (.error e, holding data outputMode)
  | _ =>
    match (holding data outputMode).settle directory temporary name with
    | .ok settled => (.ok (), settled)
    | .error e => (.error e, holding data outputMode)

/-- Writes octets to the file at a path where the system may refuse a step. The temporary file is taken
away if a step fails after it was made. -/
def replaceUnder (stop : Option (Interruption × SystemError)) (fs : FileSystem) (path : String)
    (data : Bytes) : Except FileProblem Unit × FileSystem :=
  if hasNull path then (.error .nullCharacter, fs)
  else
    let ns := names path
    let name := ns.getLast?.getD ""
    let parent := ofNames (rootOf path) ns.dropLast
    match stop with
    | some (.creating, e) => (.error (.system e), fs)
    | _ =>
      match fs.makeTemporary parent name [] with
      | .error e => (.error (.system e), fs)
      | .ok (directory, temporary, created) =>
        match created.finish stop directory temporary name data with
        | (.ok (), settled) => (.ok (), settled)
        | (.error e, left) => (.error (.system e), left.remove temporary)

/-- Of two things put at a location the later one stands there. -/
theorem put_put (fs : FileSystem) (target : Location) (d e : Entry) :
    (fs.put target d).put target e = fs.put target e := by
  have again (es : List (Location × Entry)) :
      putEntry target e (putEntry target d es) = putEntry target e es := by
    induction es with
    | nil => simp [putEntry]
    | cons p es ih =>
      by_cases here : p.1 = target
      · simp [putEntry, here]
      · simp [putEntry, here, ih]
  rw [put, put, again]
  rfl

/-- What a temporary file is made to hold makes no difference to whether it is made. -/
theorem makeTemporary_eq (fs : FileSystem) (parent name : String) (data : Bytes) :
    fs.makeTemporary parent name data = (fs.makeTemporary parent name []).map
      fun (l, target, created) => (l, target, created.put target (.file ⟨data, temporaryMode, none⟩)) := by
  unfold makeTemporary
  dsimp only
  by_cases long : maxPath < octets parent + 1 + octets (temporaryName name 0)
  · rw [if_pos long, if_pos long]
    rfl
  · rw [if_neg long, if_neg long]
    rcases fs.directory parent with e | l
    · rfl
    · rw [Outcome.ok_bind, Outcome.ok_bind]
      by_cases long' : maxName < octets (temporaryName name 0)
      · rw [if_pos long', if_pos long']
        rfl
      · rw [if_neg long', if_neg long']
        rcases fs.freshName? l name with _ | t
        · rfl
        · exact congrArg (fun made => Except.ok (l, l ++ [t], made)) (put_put fs _ _ _).symm

/-- If the system refuses nothing, the file is replaced as it is replaced in a run. -/
theorem replaceUnder_none (fs : FileSystem) (path : String) (data : Bytes) :
    fs.replaceUnder none path data = fs.replace path data := by
  unfold replaceUnder replace
  by_cases null : hasNull path = true
  · rw [if_pos null, if_pos null]
  · rw [if_neg null, if_neg null]
    dsimp only
    rw [makeTemporary_eq fs _ _ data]
    rcases made : fs.makeTemporary _ _ [] with e | ⟨l, t, created⟩
    · rfl
    · obtain ⟨-, -, -, fresh, ⟨n, rfl⟩, rfl⟩ := makeTemporary_eq_ok made
      simp only [Except.map, finish, put_put, settle_put _ _ _ fresh]
      have temporary : l ++ [n] ≠ [] := by simp
      by_cases nameless : (names path).getLast?.getD "" = "" ∨ (names path).getLast?.getD "" = ".."
      · simp only [if_pos nameless, remove_put temporary fresh]
      · simp only [if_neg nameless]
        by_cases taken : fs.lookup (l ++ [(names path).getLast?.getD ""]) = some .directory
        · simp only [if_pos taken, remove_put temporary fresh]
        · simp only [if_neg taken]

/-- Whatever step is refused, only the temporary file was touched before. -/
theorem finish_cases (stop : Option (Interruption × SystemError)) (l t : Location) (name : String)
    (data : Bytes) : (∃ step e f, stop = some (step, e) ∧
        fs.finish stop l t name data = (.error e, fs.put t (.file f))) ∨
      fs.finish stop l t name data = fs.finish none l t name data := by
  rcases stop with _ | ⟨step, e⟩
  · exact .inr rfl
  · cases step with
    | creating => exact .inr rfl
    | filling count => exact .inl ⟨_, e, _, rfl, rfl⟩
    | permitting => exact .inl ⟨_, e, _, rfl, rfl⟩
    | naming => exact .inl ⟨_, e, _, rfl, rfl⟩

/-- A step that is refused leaves everything as it was; else the file is replaced as usual. -/
theorem replaceUnder_eq (stop : Option (Interruption × SystemError)) (fs : FileSystem) (path : String)
    (data : Bytes) : (∃ step e, stop = some (step, e) ∧ hasNull path = false ∧
        fs.replaceUnder stop path data = (.error (.system e), fs)) ∨
      fs.replaceUnder stop path data = fs.replace path data := by
  rw [← replaceUnder_none]
  unfold replaceUnder
  by_cases null : hasNull path = true
  · rw [if_pos null, if_pos null]
    exact .inr rfl
  · rw [if_neg null, if_neg null]
    have named : hasNull path = false := Bool.eq_false_iff.2 null
    dsimp only
    rcases made : fs.makeTemporary _ _ [] with e | ⟨l, t, created⟩
    · rcases stop with _ | ⟨step, e'⟩
      · exact .inr rfl
      · cases step with
        | creating => exact .inl ⟨_, e', rfl, named, rfl⟩
        | filling | permitting | naming => exact .inr rfl
    · obtain ⟨-, -, -, fresh, ⟨n, rfl⟩, rfl⟩ := makeTemporary_eq_ok made
      have temporary : l ++ [n] ≠ [] := by simp
      split
      · rename_i e
        exact .inl ⟨_, e, rfl, named, rfl⟩
      · dsimp only
        rcases finish_cases stop l (l ++ [n]) ((names path).getLast?.getD "") data
          with ⟨step, e, f, rfl, stopped⟩ | whole
        · rw [stopped]
          dsimp only
          rw [put_put, remove_put temporary fresh]
          exact .inl ⟨step, e, rfl, named, rfl⟩
        · rw [whole]
          exact .inr rfl

end FileSystem

open FileSystem

/-! ## Writes one after the other -/

/-- A file is written in a run exactly if the files take what is written to its path. -/
theorem exists_writeFile_iff {path : String} {b : Bytes} {w : World} :
    (∃ w', writeFile path b w = (.ok (), w')) ↔ w.files.Takes path := by
  rw [← FileSystem.replace_eq_ok_iff b]
  unfold writeFile
  rw [Run.bind_of_ok (Run.get_eq_ok.2 ⟨rfl, rfl⟩)]
  dsimp only
  rcases w.files.replace path b with ⟨p | ⟨⟩, fs'⟩
  · constructor
    · rintro ⟨w', ran⟩
      cases p <;> cases (Prod.mk.inj ran).1
    · intro done
      cases done
  · exact ⟨fun _ => rfl, fun _ => ⟨_, rfl⟩⟩

/-- Writes a file in the given way and tells or reports what became of it. -/
def writeWith (replacing : FileSystem → Except FileProblem Unit × FileSystem) (path : String)
    (b : Bytes) : Run Unit := do
  let w ← get
  let shown := simplify path
  let (outcome, files) := replacing w.files
  set { w with files }
  match outcome with
  | .ok () => Run.tell (.fileWritten shown b.length)
  | .error (.system e) => Run.fail (.output (.unwritable shown e))
  | .error .nullCharacter => Run.defect .nullCharacter

/-- Octets to write to a path, and the step that the system refuses if it refuses one. -/
structure Write where
  path : String
  data : Bytes
  stop : Option (Interruption × SystemError)

namespace Write

/-- Writes octets to a file, all or nothing, where the system may refuse a step. -/
def run (x : Write) : Run Unit :=
  writeWith (fun fs => fs.replaceUnder x.stop x.path x.data) x.path x.data

/-- If the system refuses nothing, this is how the files of a run are written. -/
theorem run_eq_writeFile (path : String) (b : Bytes) : run ⟨path, b, none⟩ = writeFile path b := by
  have same : (fun fs : FileSystem => fs.replaceUnder none path b) = fun fs => fs.replace path b :=
    funext fun fs => fs.replaceUnder_none path b
  calc run ⟨path, b, none⟩ = writeWith (fun fs => fs.replaceUnder none path b) path b := rfl
    _ = writeWith (fun fs => fs.replace path b) path b := by rw [same]
    _ = writeFile path b := rfl

/-- Makes writes one after the other, whatever becomes of those before. -/
def runAll : List Write → World → List (Except Fault Unit) × World
  | [], w => ([], w)
  | x :: xs, w =>
    let (o, w₁) := x.run w
    let (os, w₂) := runAll xs w₁
    (o :: os, w₂)

end Write

/-- What may become of a write: its outcome and the files then. -/
inductive Write.BecomesOf (x : Write) (fs : FileSystem) :
    Except Fault Unit → FileSystem → Prop
  /-- The place that the path leads to holds exactly the octets, with the permissions of an output. All
  other places are as they were. -/
  | written {fs' : FileSystem} (target : Location) (leads : fs.LeadsTo x.path target)
      (here : fs'.lookup target = some (.file ⟨x.data, 0o644, none⟩))
      (elsewhere : ∀ l, l ≠ target → fs'.lookup l = fs.lookup l)
      (read : fs'.read (simplify x.path) = .ok x.data) (takes : fs.Takes x.path) :
      BecomesOf x fs (.ok ()) fs'
  /-- It is reported that the file cannot be written: the system refused a step, or the files do not take
  what is written to the path. The files are what they were. -/
  | refused (e : SystemError) (named : hasNull x.path = false)
      (why : (∃ step, x.stop = some (step, e)) ∨ ¬ fs.Takes x.path) :
      BecomesOf x fs (.error (.failure (.output (.unwritable (simplify x.path) e)))) fs
  /-- The path holds the character that ends paths. The files are what they were. -/
  | unnamed (null : hasNull x.path = true) : BecomesOf x fs (.error (.defect .nullCharacter)) fs

/-- What may become of writes one after the other: their outcomes and the files then. -/
inductive Write.BecomesOfAll :
    List Write → FileSystem → List (Except Fault Unit) → FileSystem → Prop
  | nil (fs : FileSystem) : BecomesOfAll [] fs [] fs
  | cons {x : Write} {xs : List Write} {fs fs₁ fs₂ : FileSystem} {o : Except Fault Unit}
      {os : List (Except Fault Unit)} (first : x.BecomesOf fs o fs₁)
      (others : BecomesOfAll xs fs₁ os fs₂) : BecomesOfAll (x :: xs) fs (o :: os) fs₂

namespace Write

/-- A single write has one of the outcomes that it may have. -/
theorem run_becomes (x : Write) (w : World) :
    x.BecomesOf w.files (x.run w).1 (x.run w).2.files := by
  unfold run writeWith
  rw [Run.bind_of_ok (Run.get_eq_ok.2 ⟨rfl, rfl⟩)]
  dsimp only
  rcases w.files.replaceUnder_eq x.stop x.path x.data with ⟨step, e, stop, named, stopped⟩ | asUsual
  · rw [stopped]
    exact .refused e named (.inl ⟨step, stop⟩)
  · rw [asUsual]
    have taken := @replace_eq_ok_iff w.files x.path x.data
    rcases w.files.replace_cases x.path x.data with ⟨p, replaced⟩ | ⟨fs', target, replaced, put⟩
    · rw [replaced] at taken ⊢
      cases p with
      | system e =>
        refine .refused e ?_ (.inr fun takes => by cases taken.2 takes)
        by_contra null
        rw [replace, if_pos (by simpa using null)] at replaced
        cases replaced
      | nullCharacter => exact .unnamed (replace_eq_nullCharacter replaced)
    · rw [replaced] at taken ⊢
      refine .written target put.leads ?_ (fun l other => put.lookup other) put.read (taken.1 rfl)
      change fs'.lookup target = _
      rw [put.eq, lookup_put _ _ _ _ put.leads.ne_nil, if_pos rfl]
      rfl

/-- Writes one after the other have them one after the other. -/
theorem runAll_becomes (xs : List Write) (w : World) :
    BecomesOfAll xs w.files (runAll xs w).1 (runAll xs w).2.files := by
  induction xs generalizing w with
  | nil => exact .nil w.files
  | cons x xs ih =>
    rw [runAll]
    exact .cons (x.run_becomes w) (ih (x.run w).2)

/-- In the end, in each place stands what stood there in the beginning, or what a write put there that
succeeded: nothing temporary is left. -/
theorem BecomesOfAll.lookup {xs : List Write} {fs fs' : FileSystem} {os : List (Except Fault Unit)}
    (h : BecomesOfAll xs fs os fs') (l : Location) : fs'.lookup l = fs.lookup l ∨
      ∃ x, (x, .ok ()) ∈ xs.zip os ∧ fs'.lookup l = some (.file ⟨x.data, 0o644, none⟩) := by
  induction h with
  | nil fs => exact .inl rfl
  | @cons x xs fs fs₁ fs₂ o os first others ih =>
    rw [List.zip_cons_cons]
    rcases ih with same | ⟨y, made, stands⟩
    · cases first with
      | written target leads here elsewhere =>
        by_cases there : l = target
        · subst there
          exact .inr ⟨x, List.mem_cons_self, same.trans here⟩
        · exact .inl (same.trans (elsewhere l there))
      | refused => exact .inl same
      | unnamed => exact .inl same
    · exact .inr ⟨y, List.mem_cons_of_mem _ made, stands⟩

/-- Writes are atomic, whatever the paths are, whatever stands in the files and whichever steps the system
refuses; where it refuses none, they are the writes of a run. Each one puts its octets where its path
leads and changes nothing else, or it is reported and changes nothing at all. The one exception from being
reported are paths that hold the character that ends paths. (A path consists of characters; one with half of
a surrogate pair is not represented.) -/
theorem runAll_atomic (xs : List Write) (w : World) :
    (∀ x ∈ xs, x.stop = none → x.run = writeFile x.path x.data) ∧
    BecomesOfAll xs w.files (runAll xs w).1 (runAll xs w).2.files ∧
    ∀ l, (runAll xs w).2.files.lookup l = w.files.lookup l ∨
      ∃ x, (x, .ok ()) ∈ xs.zip (runAll xs w).1 ∧
        (runAll xs w).2.files.lookup l = some (.file ⟨x.data, 0o644, none⟩) := by
  have becomes := runAll_becomes xs w
  refine ⟨?_, becomes, becomes.lookup⟩
  rintro ⟨path, b, _⟩ - rfl
  exact run_eq_writeFile path b

end Write

end ImageSigning
