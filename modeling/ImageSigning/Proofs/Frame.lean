import Mathlib.Order.Defs.Unbundled
import ImageSigning.Proofs.Run
import ImageSigning.Signing

/-!
# What a run leaves alone

A run that uses a provider of keys changes what that provider keeps of its session, lists the programs
that it runs, and tells of what it does. It leaves all other providers alone, and the provider that token
keys are routed through; it neither opens nor closes a session, so the private directories stay the same.
A quiet run leaves the files and the environment alone too. All stages of signing are quiet, from loading
the image up to the signature that is to be written.

* **`Run.Leaves`** — what a run leaves is related to what it found, however it ends.
* **`World.StaysWithin`**, **`World.IsQuiet`** — surroundings before and after a run of one provider.
* **`Image.load_quiet`**, **`Identity.load_quiet`**, **`SigningKey.sign_quiet`**,
  **`Signature.build_quiet`**, **`Signature.augment_quiet`** — the stages of signing.
-/

namespace ImageSigning

namespace Run

/-! ## What is left, related to what was found -/

variable {α β : Type} {w w' : World} {R : World → World → Prop} {x : Run α} {f : α → Run β}

/-- What a run leaves is related to what it found, however it ends. -/
structure Leaves (R : World → World → Prop) (x : Run α) : Prop where
  related : ∀ w, R w (x w).2

/-- A choice leaves what both of its branches leave. -/
theorem Leaves.ite {p : Prop} [Decidable p] {y : Run α} (hx : Leaves R x) (hy : Leaves R y) :
    Leaves R (if p then x else y) := by
  split
  · exact hx
  · exact hy

/-- What a run leaves in a way it leaves in any weaker way. -/
theorem Leaves.mono {S : World → World → Prop} (h : Leaves R x) (weaker : ∀ v v', R v v' → S v v') :
    Leaves S x := ⟨fun v => weaker _ _ (h.related v)⟩

/-- A change leaves what it leaves of each surroundings. -/
theorem leaves_modify {g : World → World} (h : ∀ w, R w (g w)) :
    Leaves R (modify g : Run PUnit) := ⟨h⟩

/-- Rewording a fault changes no surroundings. -/
theorem leaves_tryCatch (h : Leaves R x) (g : Fault → Fault) :
    Leaves R (tryCatch x fun e => throw (g e)) := by
  refine ⟨fun w => ?_⟩
  rw [tryCatch_throw]
  exact h.related w

/-- A run that went from some surroundings to others left what it leaves. -/
theorem Leaves.of_eq (h : Leaves R x) {o : Except Fault α} (ran : x w = (o, w')) : R w w' := by
  have left := h.related w
  rwa [ran] at left

section
variable [IsPreorder World R]

/-- A result changes no surroundings. -/
theorem leaves_pure (a : α) : Leaves R (pure a : Run α) := ⟨fun w => refl_of R w⟩

/-- A fault changes no surroundings. -/
theorem leaves_throw (e : Fault) : Leaves R (throw e : Run α) := ⟨fun w => refl_of R w⟩

/-- A failure changes no surroundings. -/
theorem leaves_fail (e : Failure) : Leaves R (fail e : Run α) := leaves_throw _

/-- A defect changes no surroundings. -/
theorem leaves_defect (d : Defect) : Leaves R (defect d : Run α) := leaves_throw _

/-- Looking at the surroundings does not change them. -/
theorem leaves_get : Leaves R (get : Run World) := ⟨fun w => refl_of R w⟩

/-- Lifting an outcome changes no surroundings. -/
theorem leaves_lift {ε : Type} (fault : ε → Fault) (r : Except ε α) : Leaves R (lift fault r) := by
  cases r with
  | ok a => exact leaves_pure a
  | error e => exact leaves_throw _

/-- Taking a text out of a setting changes no surroundings. -/
theorem leaves_text (v : Value) : Leaves R (text v) := by
  cases v with
  | text s => exact leaves_pure s
  | _ => exact leaves_defect _

/-- Naming a subject changes no surroundings. -/
theorem leaves_subject (c : Certificate) : Leaves R (subject c) := leaves_lift _ _

/-- A sequence, if what follows does so for each result that its first step can have. -/
theorem Leaves.bind_of (first : Leaves R x)
    (rest : ∀ a, (∃ w w', x w = (.ok a, w')) → Leaves R (f a)) : Leaves R (x >>= f) := by
  refine ⟨fun w => ?_⟩
  rcases ran : x w with ⟨e | a, w₁⟩
  · rw [bind_of_error ran]
    exact first.of_eq ran
  · rw [bind_of_ok ran]
    exact trans_of R (first.of_eq ran) ((rest a ⟨w, w₁, ran⟩).related w₁)

/-- Two parts leave, one after the other, what each of them leaves. -/
theorem Leaves.bind (first : Leaves R x) (rest : ∀ a, Leaves R (f a)) : Leaves R (x >>= f) :=
  first.bind_of fun a _ => rest a

/-- Nothing is run behind a fault. -/
theorem leaves_throw_bind (e : Fault) (f : α → Run β) : Leaves R ((throw e : Run α) >>= f) :=
  ⟨fun w => refl_of R w⟩

/-- A check that can only end the run, with nothing changed. -/
theorem Leaves.throwUnless {p : Prop} [Decidable p] {e : Fault} {y : Run β} (hy : Leaves R y) :
    Leaves R (if p then (throw e : Run α) >>= f else y) :=
  Leaves.ite (leaves_throw_bind _ _) hy

/-- A loop leaves what each of its rounds leaves. -/
theorem leaves_forIn {ι : Type} (l : List ι) {g : ι → Run Unit} (h : ∀ i, Leaves R (g i)) :
    Leaves R (forIn l PUnit.unit fun i _ => do
      g i
      pure (ForInStep.yield PUnit.unit)) := by
  induction l with
  | nil => exact leaves_pure _
  | cons i l ih =>
    rw [List.forIn_cons]
    refine Leaves.bind ((h i).bind fun _ => leaves_pure _) fun step => ?_
    cases step with
    | done _ => exact leaves_pure _
    | yield _ => exact ih

end

end Run

/-! ## The surroundings of one provider -/

/-- Whether a provider has a session. -/
def Provider.isOpen : Provider → Bool
  | files => false
  | token e => e.isInitialized

/-- The private directory of a provider's session. -/
def Provider.directory? : Provider → Option Nat
  | files => none
  | token e => e.session.map (·.directory)

/-- A provider has a private directory exactly if it is in session. -/
theorem Provider.isSome_directory? (p : Provider) : p.directory?.isSome = p.isOpen := by
  cases p with
  | files => rfl
  | token e => exact Option.isSome_map

namespace World

/-- Whether the provider with a number has a session. -/
def IsOpen (w : World) (n : Nat) : Prop := w.providers[n]?.map Provider.isOpen = some true

/-- Whether the provider with a number has a session in the given private directory. -/
def IsOpenIn (w : World) (n d : Nat) : Prop :=
  w.providers[n]?.map Provider.directory? = some (some d)

/-- Whether a provider is in session can be seen from its private directory. -/
theorem map_isOpen (w : World) (n : Nat) :
    w.providers[n]?.map Provider.isOpen = (w.providers[n]?.map Provider.directory?).map Option.isSome := by
  rw [Option.map_map]
  exact congrArg (w.providers[n]?.map ·) (funext fun p => p.isSome_directory?.symm)

/-- A provider is in session exactly if it is so in some directory. -/
theorem isOpen_iff {w : World} {n : Nat} : w.IsOpen n ↔ ∃ d, w.IsOpenIn n d := by
  unfold IsOpen IsOpenIn
  rw [map_isOpen]
  rcases w.providers[n]?.map Provider.directory? with _ | _ | d <;> simp

/-- Surroundings in which at most the provider with a number differs from what it was, and has a session
in the directory in which it had one. -/
structure StaysWithin (n : Nat) (w w' : World) : Prop where
  registered : w'.registered = w.registered
  directories : w'.directories = w.directories
  others : ∀ m ≠ n, w'.providers[m]? = w.providers[m]?
  own : w'.providers[n]?.map Provider.directory? = w.providers[n]?.map Provider.directory?

/-- What stays within a session keeps it as it is. -/
theorem StaysWithin.map_isOpen {n : Nat} {w w' : World} (h : StaysWithin n w w') :
    w'.providers[n]?.map Provider.isOpen = w.providers[n]?.map Provider.isOpen := by
  rw [World.map_isOpen, h.own, ← World.map_isOpen]

/-- The same, with the same files and environment. -/
structure IsQuiet (n : Nat) (w w' : World) : Prop extends StaysWithin n w w' where
  files : w'.files = w.files
  environment : w'.environment = w.environment

instance (n : Nat) : IsPreorder World (StaysWithin n) where
  refl _ := ⟨rfl, rfl, fun _ _ => rfl, rfl⟩
  trans _ _ _ h h' := ⟨h'.registered.trans h.registered, h'.directories.trans h.directories,
    fun m other => (h'.others m other).trans (h.others m other), h'.own.trans h.own⟩

instance (n : Nat) : IsPreorder World (IsQuiet n) where
  refl w := ⟨refl_of (StaysWithin n) w, rfl, rfl⟩
  trans _ _ _ h h' :=
    ⟨trans_of (StaysWithin n) h.toStaysWithin h'.toStaysWithin, h'.files.trans h.files,
      h'.environment.trans h.environment⟩

end World

/-- What a quiet run of one provider leaves. -/
abbrev Run.IsQuiet {α : Type} (n : Nat) (x : Run α) : Prop := Run.Leaves (World.IsQuiet n) x

open Run

section
variable {n : Nat}

/-- Telling an event is quiet. -/
theorem tell_quiet (e : Event) : IsQuiet n (tell e) :=
  ⟨fun _ => ⟨⟨rfl, rfl, fun _ _ => rfl, rfl⟩, rfl, rfl⟩⟩

/-- What is quiet stays within the session. -/
theorem Run.IsQuiet.within {α : Type} {x : Run α} (h : IsQuiet n x) :
    Leaves (World.StaysWithin n) x := h.mono fun _ _ quiet => quiet.toStaysWithin

/-- A quiet part stays quiet if an event may be told before it. -/
theorem Run.IsQuiet.tellIf {α : Type} {p : Prop} [Decidable p] {e : Event} {k : Unit → Run α}
    (h : IsQuiet n (k ())) : IsQuiet n (if p then tell e >>= k else k ()) :=
  Leaves.ite ((tell_quiet e).bind fun _ => h) h

/-! ## The stages of signing -/

/-- Whether an event tells of an entry of another revision. -/
def Event.isOddRevision : Event → Bool
  | oddRevision _ _ => true
  | _ => false

/-- A signature is not announced as an odd revision. -/
theorem Store.isOddRevision_of_announce {s : Store} {x : StoredSignature} {e : Event}
    (h : s.announce x = .ok e) : e.isOddRevision = false := by
  cases x with
  | undecoded der reason =>
    obtain rfl := Except.ok.inj h
    rfl
  | decoded t =>
    obtain ⟨subject, -, rfl⟩ := Outcome.map_eq_ok.1 h
    rfl

namespace Image

section
variable {R : World → World → Prop} [IsPreorder World R]
  (tells : ∀ e : Event, e.isOddRevision = false → Leaves R (tell e))
include tells

/-- Reporting a signature leaves what telling an event leaves. -/
theorem leaves_report (s : Store) (x : StoredSignature) : Leaves R (s.report x) := by
  unfold Store.report
  refine (leaves_lift _ _).bind_of fun e told => tells e ?_
  obtain ⟨w, w', ran⟩ := told
  exact Store.isOddRevision_of_announce (lift_eq_ok.1 ran).1

/-- Storing an entry that was not decoded leaves what telling an event leaves. -/
theorem leaves_storeUndecoded (path : String) (number : Nat) (content : Bytes)
    (p : SignatureProblem) (s : Store) : Leaves R (storeUndecoded path number content p s) := by
  unfold storeUndecoded
  refine (tells _ rfl).bind fun _ => ?_
  exact (leaves_report tells s _).bind fun _ => leaves_pure _

/-- Storing an entry leaves what telling events leaves. -/
theorem leaves_storeEntry (path : String) (number : Nat) (content : Bytes) (s : Store) :
    Leaves R (storeEntry path number content s) := by
  unfold storeEntry
  split
  · exact Leaves.ite (leaves_storeUndecoded tells ..) (leaves_defect _)
  · dsimp only
    split
    · rename_i e told
      exact (tells e (Store.isOddRevision_of_announce told)).bind fun _ => leaves_pure _
    · exact Leaves.ite (leaves_storeUndecoded tells ..) (leaves_defect _)

/-- Storing the entries of a table tells of each of them, and never of its revision. -/
theorem leaves_storeEntries (path : String) (number : Nat) (contents : List Bytes) (s : Store) :
    Leaves R (storeEntries path number contents s) := by
  induction contents generalizing number s with
  | nil => exact leaves_pure s
  | cons content contents ih =>
    rw [storeEntries]
    exact (leaves_storeEntry tells path number content s).bind fun s => ih (number + 1) s

end

/-- Loading an image only tells of what it meets. -/
theorem load_quiet (path : String) : IsQuiet n (load path) := by
  unfold load
  refine leaves_get.bind fun w => ?_
  refine (leaves_lift _ _).bind fun raw => (leaves_lift _ _).bind fun parts => ?_
  refine IsQuiet.tellIf ?_
  refine (leaves_forIn _ fun i => tell_quiet _).bind fun _ => ?_
  refine (leaves_lift _ _).bind fun contents => ?_
  refine (leaves_storeEntries (fun e _ => tell_quiet e) ..).bind fun signatures => ?_
  exact (tell_quiet _).bind fun _ => leaves_pure _

/-- Digesting an image is quiet. -/
theorem digest_quiet (image : Image) (a : DigestAlgorithm) : IsQuiet n (image.digest a) := by
  unfold digest
  refine (leaves_lift _ _).bind fun d => ?_
  exact (tell_quiet _).bind fun _ => leaves_pure d

end Image

/-- A key that needs no provider or the provider with a number. -/
def SigningKey.IsOf (n : Nat) : SigningKey → Prop
  | inMemory _ => True
  | onToken m _ _ => m = n

/-- Each key is one of some provider. -/
theorem SigningKey.exists_isOf (key : SigningKey) : ∃ n, key.IsOf n := by
  cases key with
  | inMemory _ => exact ⟨0, trivial⟩
  | onToken n _ _ => exact ⟨n, rfl⟩

namespace Provider

section
variable {R : World → World → Prop} [IsPreorder World R]

/-- Reading a key from a file changes no surroundings. -/
theorem leaves_loadFromFile (path : Value) (format : KeyFormat) (password : Option Bytes) :
    Leaves R (loadFromFile path format password) := by
  unfold loadFromFile
  refine Leaves.throwUnless ?_
  refine (leaves_text _).bind fun path => leaves_get.bind fun w => ?_
  exact (leaves_lift _ _).bind fun key => leaves_pure _

/-- Finding a key on a token changes no surroundings. -/
theorem leaves_loadFromToken (m : Nat) (reference : Value) (format : KeyFormat) (c : Certificate)
    (password : Option Bytes) : Leaves R (loadFromToken m reference format c password) := by
  unfold loadFromToken referenceText
  refine Leaves.ite (leaves_loadFromFile ..) ?_
  refine (leaves_lift _ _).bind fun key => ?_
  refine Leaves.bind ?_ fun text => (leaves_lift _ _).bind fun attributes => leaves_pure _
  split
  · exact leaves_pure _
  · exact leaves_defect _
  · exact leaves_defect _

/-- Loading a key only reads. -/
theorem leaves_loadKey (p : Provider) (m : Nat) (reference : Value) (format : KeyFormat)
    (c : Certificate) (password : Option Bytes) :
    Leaves R ((source p m).loadKey reference format c password) := by
  cases p with
  | files => exact leaves_loadFromFile ..
  | token e => exact leaves_loadFromToken ..

end

/-- A key from a file is one of any provider. -/
theorem isOf_of_loadFromFile {path : Value} {format : KeyFormat} {password : Option Bytes}
    {key : SigningKey} {w w' : World} (h : loadFromFile path format password w = (.ok key, w')) :
    key.IsOf n := by
  unfold loadFromFile at h
  obtain ⟨-, h⟩ := Run.failUnless_eq_ok.1 h
  obtain ⟨path, w₁, -, h⟩ := Run.bind_eq_ok.1 h
  obtain ⟨v, w₂, -, h⟩ := Run.bind_eq_ok.1 h
  obtain ⟨k, w₃, -, h⟩ := Run.bind_eq_ok.1 h
  obtain ⟨rfl, -⟩ := Run.pure_eq_ok.1 h
  trivial

/-- The keys of a provider need no other. -/
theorem isOf_of_loadKey {p : Provider} {reference : Value} {format : KeyFormat} {c : Certificate}
    {password : Option Bytes} {key : SigningKey} {w w' : World}
    (h : (source p n).loadKey reference format c password w = (.ok key, w')) : key.IsOf n := by
  cases p with
  | files => exact isOf_of_loadFromFile h
  | token e =>
    change loadFromToken n reference format c password w = (.ok key, w') at h
    unfold loadFromToken at h
    split at h
    · exact isOf_of_loadFromFile h
    · obtain ⟨known, w₁, -, h⟩ := Run.bind_eq_ok.1 h
      obtain ⟨text, w₂, -, h⟩ := Run.bind_eq_ok.1 h
      obtain ⟨attributes, w₃, -, h⟩ := Run.bind_eq_ok.1 h
      obtain ⟨rfl, -⟩ := Run.pure_eq_ok.1 h
      rfl

end Provider

namespace Identity

/-- Loading an identity only tells of it. -/
theorem load_quiet (p : Provider) (m : Nat) (r : IdentityRequest) :
    IsQuiet n (load (p.source m) r) := by
  unfold load
  refine (leaves_text _).bind fun path => leaves_get.bind fun w => ?_
  refine (leaves_lift _ _).bind fun certificate => ?_
  refine (Provider.leaves_loadKey ..).bind fun key => (leaves_lift _ _).bind fun summary => ?_
  exact (tell_quiet _).bind fun _ => leaves_pure _

/-- The key of an identity is one of the provider that it was opened with. -/
theorem isOf_of_load {p : Provider} {r : IdentityRequest} {i : Identity} {w w' : World}
    (h : load (p.source n) r w = (.ok i, w')) : i.key.IsOf n := by
  unfold load at h
  obtain ⟨path, w₁, -, h⟩ := Run.bind_eq_ok.1 h
  obtain ⟨v, w₂, -, h⟩ := Run.bind_eq_ok.1 h
  obtain ⟨c, w₃, -, h⟩ := Run.bind_eq_ok.1 h
  obtain ⟨key, w₄, found, h⟩ := Run.bind_eq_ok.1 h
  obtain ⟨summary, w₅, -, h⟩ := Run.bind_eq_ok.1 h
  obtain ⟨_, w₆, -, h⟩ := Run.bind_eq_ok.1 h
  obtain ⟨rfl, -⟩ := Run.pure_eq_ok.1 h
  exact Provider.isOf_of_loadKey found

end Identity

/-! ### Signing -/

/-- The same as long as the provider has a session in the given directory. -/
def World.IsQuietIfOpenIn (n d : Nat) (w w' : World) : Prop :=
  w.IsOpenIn n d → World.IsQuiet n w w'

/-- A provider in session stays so through what is quiet. -/
theorem World.IsQuiet.isOpen {w w' : World} (h : World.IsQuiet n w w') (here : w.IsOpen n) :
    w'.IsOpen n := h.map_isOpen.trans here

instance (n d : Nat) : IsPreorder World (World.IsQuietIfOpenIn n d) where
  refl w _ := refl_of (World.IsQuiet n) w
  trans _ _ _ h h' here :=
    have first := h here
    trans_of (World.IsQuiet n) first (h' (first.own.trans here))

namespace Engine

variable {d : Nat}

/-- Putting a changed session in place keeps the provider in session. -/
theorem keepSession_quiet (e : Engine) {s : Session} (same : s.directory = d) :
    Leaves (World.IsQuietIfOpenIn n d) (keepSession n e s) := by
  refine leaves_modify fun w here => ⟨⟨rfl, rfl, ?_, ?_⟩, rfl, rfl⟩
  · intro m other
    change (w.providers.set n _)[m]? = w.providers[m]?
    rw [List.getElem?_set_ne other.symm]
  · obtain ⟨p, found, -⟩ := Option.map_eq_some_iff.1 here
    obtain ⟨inside, -⟩ := List.getElem?_eq_some_iff.1 found
    rw [here]
    change ((w.providers.set n _)[n]?).map Provider.directory? = some (some d)
    rw [List.getElem?_set_self inside, ← same]
    rfl

/-- Running a tool is quiet. -/
theorem runTool_quiet (tool : String) (request : ToolRequest) :
    Leaves (World.IsQuietIfOpenIn n d) (runTool tool request) := by
  refine ⟨fun w _ => ?_⟩
  unfold runTool
  rw [bind_of_ok (get_eq_ok.2 ⟨rfl, rfl⟩)]
  rcases Tool.program w.files w.environment tool with e | program
  · exact refl_of (World.IsQuiet n) w
  · exact ⟨⟨rfl, rfl, fun _ _ => rfl, rfl⟩, rfl, rfl⟩

/-- Signing on a token keeps its provider in session. -/
theorem sign_quiet {e : Engine} {s : Session} (session : e.session = some s)
    (attributes : Option KeyReference.Attributes) (m : Mechanism) (message : Bytes) :
    Leaves (World.IsQuietIfOpenIn n s.directory) (e.sign n attributes m message) := by
  unfold sign
  rw [session]
  dsimp only
  refine Leaves.bind (keepSession_quiet e rfl) fun _ => ?_
  split
  · exact leaves_defect _
  · split
    · exact leaves_defect _
    · refine Leaves.throwUnless ?_
      refine (runTool_quiet _ _).bind fun outcome => ?_
      split
      · exact leaves_fail _
      · refine Leaves.bind (keepSession_quiet e rfl) fun _ => Leaves.throwUnless ?_
        split
        · exact leaves_pure _
        · exact leaves_fail _

end Engine

/-- Signing with a provider is quiet. -/
theorem Provider.sign_quiet (attributes : Option KeyReference.Attributes) (m : Mechanism)
    (message : Bytes) : IsQuiet n (Provider.sign n attributes m message) := by
  refine ⟨fun w => ?_⟩
  unfold Provider.sign
  rw [bind_of_ok (get_eq_ok.2 ⟨rfl, rfl⟩)]
  rcases found : w.providers[n]? with _ | _ | e
  · exact refl_of (World.IsQuiet n) w
  · exact refl_of (World.IsQuiet n) w
  · rcases session : e.session with _ | s
    · unfold Engine.sign
      dsimp only
      rw [session]
      exact refl_of (World.IsQuiet n) w
    · have here : w.IsOpenIn n s.directory := by
        unfold World.IsOpenIn
        rw [found]
        simp [Provider.directory?, session]
      exact (Engine.sign_quiet session _ _ _).related w here

/-- Signing with a key of a provider is quiet. -/
theorem SigningKey.sign_quiet {key : SigningKey} (own : key.IsOf n) (f : HashFunction)
    (message : Bytes) : IsQuiet n (key.sign f message) := by
  unfold sign
  cases key with
  | inMemory key =>
    refine Leaves.throwUnless ?_
    dsimp only
    split
    · exact leaves_pure _
    · exact leaves_defect _
  | onToken m attributes algorithm =>
    obtain rfl : m = n := own
    refine leaves_get.bind fun w => Leaves.throwUnless ?_
    dsimp only
    split
    · exact leaves_fail _
    · exact Provider.sign_quiet ..

namespace Signature

/-- Writing a signature's octets is quiet. -/
theorem written_quiet (s : Signature) : IsQuiet n s.written := by
  unfold written
  refine (leaves_lift _ _).bind fun t => Leaves.throwUnless ?_
  exact leaves_pure _

/-- Building a signature with a provider's own key is quiet. -/
theorem build_quiet {i : Identity} (own : i.key.IsOf n) (d : Digest) : IsQuiet n (build i d) := by
  unfold build
  refine (leaves_lift _ _).bind fun algorithm => (leaves_lift _ _).bind fun _ => ?_
  unfold signContent
  refine (leaves_tryCatch (SigningKey.sign_quiet own _ _) _).bind fun value => ?_
  refine Leaves.ite ?_ ?_
  · exact (leaves_subject _).bind fun t => leaves_throw_bind _ _
  · refine (written_quiet _).bind fun s => (leaves_subject _).bind fun t => ?_
    exact (tell_quiet _).bind fun _ => leaves_pure _

/-- Adding a bundle to a signature is quiet. -/
theorem augment_quiet (s : Signature) (path : String) : IsQuiet n (s.augment path) := by
  unfold augment
  refine leaves_get.bind fun w => (leaves_lift _ _).bind fun chain => IsQuiet.tellIf ?_
  refine (written_quiet _).bind fun t => ?_
  exact (tell_quiet _).bind fun _ => leaves_pure _

end Signature

end

end ImageSigning
