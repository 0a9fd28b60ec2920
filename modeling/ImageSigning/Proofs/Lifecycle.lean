import ImageSigning.Proofs.Session

/-!
# The use of a provider for an identity

For an identity its provider is made ready, then the key is loaded and the block is run, and then the
provider is shut down, once, if it was made ready at all. The provider may be any and do anything, and so
may the block; each may fail in any way. To see what is done and in which order, the parts of the provider
and the block are watched: notes are taken, somewhere that they leave alone, when one begins and when it
is over.

* **`KeySource.session_of_error`**, **`KeySource.session_of_ok`** — how a session ends.
* **`Notebook.read_session`** — a session is noted as its start, its block and its end.
* **`Identity.useNamed_lifecycle`** — what is done with a provider for an identity, and what comes of it.
-/

namespace ImageSigning

open Run

/-! ## Watching -/

/-- What is done for an identity. -/
inductive Use where
  | setUp
  | loadKey
  | block
  | shutDown
  deriving DecidableEq, Repr

/-- A note about what is done. -/
inductive Note where
  | begins (u : Use)
  | ends (u : Use)
  deriving DecidableEq, Repr

/-- The notes about something that is done while nothing else is. -/
def Use.notes (u : Use) : List Note := [.begins u, .ends u]

/-- A place in the surroundings for notes. What is told of an identity leaves it alone. -/
structure Notebook where
  /-- The notes, in order. -/
  read : World → List Note
  /-- Adds a note. -/
  write : Note → World → World
  read_write : ∀ x w, read (write x w) = read w ++ [x]
  read_tell : ∀ subject key provider w,
    read (w.tell (.identityOpened subject key provider)) = read w

namespace Notebook

variable {α : Type} (notebook : Notebook)

/-- Surroundings with the same notes. -/
def Same (w w' : World) : Prop := notebook.read w' = notebook.read w

instance : IsPreorder World notebook.Same where
  refl _ := rfl
  trans _ _ _ h h' := Eq.trans h' h

/-- A run that is noted when it begins and when it is over, however it ends. -/
def watch (u : Use) (x : Run α) : Run α := fun w =>
  let (o, w') := x (notebook.write (.begins u) w)
  (o, notebook.write (.ends u) w')

/-- A provider that is watched. -/
def watched (s : KeySource) : KeySource where
  kind := s.kind
  name := s.name
  setUp := notebook.watch .setUp s.setUp
  loadKey reference format c password := notebook.watch .loadKey (s.loadKey reference format c password)
  shutDown := notebook.watch .shutDown s.shutDown

variable {notebook}

/-- What leaves the notes alone is noted as one thing. -/
theorem read_watch {x : Run α} (kept : Leaves notebook.Same x) (u : Use) (w : World) :
    notebook.read (notebook.watch u x w).2 = notebook.read w ++ u.notes := by
  have same := kept.related (notebook.write (.begins u) w)
  change notebook.read (notebook.write (.ends u) (x (notebook.write (.begins u) w)).2) = _
  rw [notebook.read_write, same, notebook.read_write, List.append_assoc]
  rfl

end Notebook

/-! ## Sessions -/

namespace KeySource

variable {α : Type} {s : KeySource} {block : Run α} {w w₁ w₂ w₃ : World}

/-- A provider that cannot be made ready ends the session. -/
theorem session_of_error {f : Fault} (start : s.setUp w = (.error f, w₁)) :
    s.session block w = (.error f, w₁) := bind_of_error start

/-- Otherwise the provider is shut down after the block, and the outcome is the block's, unless shutting
down fails. -/
theorem session_of_ok {inner : Except Fault α} {ended : Except Fault Unit}
    (start : s.setUp w = (.ok (), w₁)) (ran : block w₁ = (inner, w₂)) (shut : s.shutDown w₂ = (ended, w₃)) :
    s.session block w = (ended >>= fun _ => inner, w₃) := by
  unfold session
  rw [bind_of_ok start]
  unfold always
  rw [ran]
  dsimp only
  rw [shut]
  cases ended <;> rfl

end KeySource

namespace Notebook

variable {α : Type} {notebook : Notebook} {s : KeySource} {block : Run α} {w : World}

/-- A session is noted as its start alone, or as its start, what was noted of its block, and its end. -/
theorem read_session (setUp : Leaves notebook.Same s.setUp) (shutDown : Leaves notebook.Same s.shutDown)
    {uses : World → List Use}
    (noted : ∀ v, notebook.read (block v).2 = notebook.read v ++ (uses v).flatMap Use.notes) :
    (∃ f w₁, (notebook.watched s).setUp w = (.error f, w₁) ∧
      notebook.read ((notebook.watched s).session block w).2 = notebook.read w ++ Use.setUp.notes) ∨
    ∃ w₁, (notebook.watched s).setUp w = (.ok (), w₁) ∧
      notebook.read ((notebook.watched s).session block w).2
        = notebook.read w ++ (Use.setUp :: uses w₁ ++ [Use.shutDown]).flatMap Use.notes := by
  have first : notebook.read ((notebook.watched s).setUp w).2 = notebook.read w ++ Use.setUp.notes :=
    read_watch setUp .setUp w
  rcases start : (notebook.watched s).setUp w with ⟨f | ⟨⟩, w₁⟩
  · left
    rw [start] at first
    refine ⟨f, w₁, rfl, ?_⟩
    rw [KeySource.session_of_error start]
    exact first
  · right
    rw [start] at first
    refine ⟨w₁, rfl, ?_⟩
    have between := noted w₁
    rcases ran : block w₁ with ⟨inner, w₂⟩
    have last : notebook.read ((notebook.watched s).shutDown w₂).2
        = notebook.read w₂ ++ Use.shutDown.notes := read_watch shutDown .shutDown _
    rcases ended : (notebook.watched s).shutDown w₂ with ⟨o, w₃⟩
    rw [ran] at between
    rw [ended] at last
    rw [KeySource.session_of_ok start ran ended]
    dsimp only at first between last ⊢
    rw [last, between, first]
    simp [List.append_assoc]

end Notebook

/-! ## Identities -/

/-- A provider is made, and stands behind those that there are; or there is none that can be. -/
theorem Provider.create_sourceOf_eq (engine : Option String) (options : List (String × Value)) (w : World) :
    (Provider.create engine options >>= Provider.sourceOf) w
      = match Provider.ofName engine options w.environment with
        | .error f => (.error f, w)
        | .ok p => (.ok (p.source w.providers.length), { w with providers := w.providers ++ [p] }) := by
  rcases ran : (Provider.create engine options >>= Provider.sourceOf) w with ⟨o, w'⟩
  rcases Provider.create_sourceOf_cases ran with ⟨f, rfl, unknown, rfl⟩ | ⟨p, rfl, found, -, rfl⟩
  · rw [unknown]
  · rw [found]

namespace Identity

variable {α : Type} {notebook : Notebook} {s : KeySource} {r : IdentityRequest} {w w' : World}

/-- Loading an identity ends at the certificate or asks the provider for the key once. -/
theorem read_load (loadKey : ∀ reference format c password,
    Leaves notebook.Same (s.loadKey reference format c password)) {o : Except Fault Identity}
    (ran : load (notebook.watched s) r w = (o, w')) :
    ((∃ f, o = .error f) ∧ notebook.read w' = notebook.read w) ∨
      notebook.read w' = notebook.read w ++ Use.loadKey.notes := by
  unfold load at ran
  rcases bind_cases ran with ⟨f, rfl, failed⟩ | ⟨path, v, named, ran⟩
  · exact .inl ⟨⟨f, rfl⟩, (leaves_text (R := notebook.Same) _).of_eq failed⟩
  obtain ⟨-, rfl⟩ := text_eq_ok.1 named
  rw [bind_of_ok (get_eq_ok.2 ⟨rfl, rfl⟩)] at ran
  rcases bind_cases ran with ⟨f, rfl, failed⟩ | ⟨c, v, found, ran⟩
  · exact .inl ⟨⟨f, rfl⟩, (leaves_lift (R := notebook.Same) _ _).of_eq failed⟩
  obtain ⟨-, rfl⟩ := lift_eq_ok.1 found
  right
  have asked : notebook.read ((notebook.watched s).loadKey r.key r.format c r.password w).2
      = notebook.read w ++ Use.loadKey.notes := Notebook.read_watch (loadKey _ _ _ _) .loadKey w
  rcases bind_cases ran with ⟨f, rfl, failed⟩ | ⟨key, v, loaded, ran⟩
  · rw [← asked, failed]
  rw [loaded] at asked
  rcases bind_cases ran with ⟨f, rfl, failed⟩ | ⟨summary, v', described, ran⟩
  · rw [← asked]
    exact (leaves_lift (R := notebook.Same) _ _).of_eq failed
  obtain ⟨-, rfl⟩ := lift_eq_ok.1 described
  rw [bind_of_ok (tell_eq _ _)] at ran
  obtain ⟨-, rfl⟩ := Prod.mk.inj ran
  rw [← asked]
  exact notebook.read_tell _ _ _ _

/-- What is done between the start and the end of a session for an identity. -/
def watchedBlock (notebook : Notebook) (s : KeySource) (r : IdentityRequest)
    (block : Identity → Run α) : Run α :=
  load (notebook.watched s) r >>= fun i => notebook.watch .block (block i)

/-- The block is run after the key was loaded, or not at all. -/
theorem read_watchedBlock (loadKey : ∀ reference format c password,
    Leaves notebook.Same (s.loadKey reference format c password)) {block : Identity → Run α}
    (kept : ∀ i, Leaves notebook.Same (block i)) (w : World) :
    ∃ uses ∈ [[], [Use.loadKey], [Use.loadKey, Use.block]],
      notebook.read (watchedBlock notebook s r block w).2 = notebook.read w ++ uses.flatMap Use.notes := by
  rcases ran : watchedBlock notebook s r block w with ⟨o, w'⟩
  rcases bind_cases ran with ⟨f, rfl, failed⟩ | ⟨i, v, loaded, ran⟩
  · rcases read_load loadKey failed with ⟨-, same⟩ | asked
    · exact ⟨[], by simp, by simpa using same⟩
    · exact ⟨[.loadKey], by simp, by simpa using asked⟩
  · rcases read_load loadKey loaded with ⟨⟨f, here⟩, -⟩ | asked
    · cases here
    · refine ⟨[.loadKey, .block], by simp, ?_⟩
      have last := Notebook.read_watch (kept i) .block v
      rw [ran, asked] at last
      simpa using last

section
variable {key format certificate : Value} {password : Option Bytes} {block : Identity → Run α}
  {origin : KeyOrigin} {f : KeyFormat}

/-- An unknown key format is refused before anything else happens. -/
theorem useNamed_of_unknown {p : ConfigurationProblem} (unknown : KeyFormat.ofValue format = .error p)
    (w : World) : useNamed key format certificate origin password block w
      = (.error (.failure (.configuration p)), w) := by
  unfold useNamed
  rw [unknown]
  rfl

/-- With a known one the identity is used as asked for. -/
theorem useNamed_of_known (known : KeyFormat.ofValue format = .ok f) (w : World) :
    useNamed key format certificate origin password block w
      = use ⟨key, f, certificate, origin, password⟩ block w := by
  unfold useNamed
  rw [known]
  rfl

/-- Without a provider there is no identity, and nothing happens. -/
theorem use_of_error {fault : Fault} (unprovided : provider r w = (.error fault, w)) :
    use r block w = (.error fault, w) := bind_of_error unprovided

/-- A provider that is made is used as one that is given. -/
theorem use_of_made {n : Nat} {p : Provider} (provided : provider r w = (.ok (p.source n), w')) :
    use r block w = use { r with origin := .given (p.source n) } block w' := bind_of_ok provided

end

/-- Without an engine the provider is that of key files, which the format of engines excludes. -/
theorem provider_of_files (files : r.origin = .files) (w : World) : provider r w
    = if r.format = .engine then (.error (.failure (.configuration .engineRequired)), w)
      else (.ok (Provider.files.source w.providers.length),
        { w with providers := w.providers ++ [.files] }) := by
  unfold provider
  rw [files]
  dsimp only
  by_cases engine : r.format = .engine
  · rw [if_pos engine, if_pos engine]
    rfl
  · rw [if_neg engine, if_neg engine]
    exact Provider.create_sourceOf_eq none [] w

/-- With an engine the provider is the one of its name and options. -/
theorem provider_of_engine {name : String} {options : List (String × Value)}
    (engine : r.origin = .engine name options) (w : World) : provider r w
      = match Provider.ofName (some name) options w.environment with
        | .error f => (.error f, w)
        | .ok p => (.ok (p.source w.providers.length), { w with providers := w.providers ++ [p] }) := by
  unfold provider
  rw [engine]
  exact Provider.create_sourceOf_eq (some name) options w

/-- An unknown engine is refused, and nothing changes. -/
theorem provider_of_unknown {name : String} {options : List (String × Value)}
    (engine : r.origin = .engine name options)
    (unknown : Text.isNameInAnyCase KeyProblem.engineName name = false) (w : World) :
    provider r w = (.error (.failure (.configuration (.unknownEngine name))), w) := by
  have refused : Provider.ofName (some name) options w.environment
      = .error (.failure (.configuration (.unknownEngine name))) := by
    simp [Provider.ofName, unknown]
  rw [provider_of_engine engine, refused]

/-- The provider that is asked for is made. -/
theorem provider_of_asked {p : Provider} (asked : r.AsksFor w.environment p)
    (able : r.origin = .files → r.format ≠ .engine) : provider r w
      = (.ok (p.source w.providers.length), { w with providers := w.providers ++ [p] }) := by
  rcases asked with ⟨files, rfl⟩ | ⟨name, options, engine, found⟩
  · rw [provider_of_files files, if_neg (able files)]
  · rw [provider_of_engine engine, found]

section
variable {key format certificate : Value} {password : Option Bytes} {block : Identity → Run α}
  {f : KeyFormat}

/-- A provider that is given is used as it is. -/
theorem useNamed_given (known : KeyFormat.ofValue format = .ok f) (s : KeySource) (w : World) :
    useNamed key format certificate (.given s) password block w
      = s.session (load s ⟨key, f, certificate, .given s, password⟩ >>= block) w :=
  useNamed_of_known known w

/-- With a provider that can be made ready, the outcome is that of loading the identity, if it fails, or of
the block, unless shutting down fails. -/
theorem useNamed_given_of_ok {inner : Except Fault α} {ended : Except Fault Unit} {w₁ w₂ w₃ : World}
    (known : KeyFormat.ofValue format = .ok f) (start : s.setUp w = (.ok (), w₁))
    (ends : (∃ e, load s ⟨key, f, certificate, .given s, password⟩ w₁ = (.error e, w₂) ∧
        inner = .error e) ∨
      ∃ i v, load s ⟨key, f, certificate, .given s, password⟩ w₁ = (.ok i, v) ∧
        block i v = (inner, w₂))
    (shut : s.shutDown w₂ = (ended, w₃)) :
    useNamed key format certificate (.given s) password block w = (ended >>= fun _ => inner, w₃) := by
  have ran : (load s ⟨key, f, certificate, .given s, password⟩ >>= block) w₁ = (inner, w₂) := by
    rcases ends with ⟨e, failed, rfl⟩ | ⟨i, v, loaded, ran⟩
    · exact bind_of_error failed
    · rw [bind_of_ok loaded, ran]
  rw [useNamed_given known]
  exact KeySource.session_of_ok start ran shut

/-- The notes about a provider that is given are those of its start, or of its start, of what was reached
after it, and of its end. -/
theorem read_useNamed (known : KeyFormat.ofValue format = .ok f) (setUp : Leaves notebook.Same s.setUp)
    (loadKey : ∀ reference format c password,
      Leaves notebook.Same (s.loadKey reference format c password))
    (shutDown : Leaves notebook.Same s.shutDown) (kept : ∀ i, Leaves notebook.Same (block i))
    (w : World) :
    ∃ uses, notebook.read (useNamed key format certificate (.given (notebook.watched s)) password
        (fun i => notebook.watch .block (block i)) w).2 = notebook.read w ++ uses.flatMap Use.notes ∧
      ((∃ e w₁, (notebook.watched s).setUp w = (.error e, w₁) ∧ uses = [Use.setUp]) ∨
      ∃ w₁, (notebook.watched s).setUp w = (.ok (), w₁) ∧
        uses ∈ [[.setUp, .shutDown], [.setUp, .loadKey, .shutDown],
          [.setUp, .loadKey, .block, .shutDown]]) := by
  have session : useNamed key format certificate (.given (notebook.watched s)) password
      (fun i => notebook.watch .block (block i)) w = (notebook.watched s).session (watchedBlock notebook s
        ⟨key, f, certificate, .given (notebook.watched s), password⟩ block) w := useNamed_given known _ w
  choose uses shape noted using read_watchedBlock (r := ⟨key, f, certificate,
    .given (notebook.watched s), password⟩) loadKey kept
  rw [session]
  rcases Notebook.read_session (w := w) setUp shutDown noted with
    ⟨e, w₁, start, told⟩ | ⟨w₁, start, told⟩
  · exact ⟨[.setUp], by simpa using told, .inl ⟨e, w₁, start, rfl⟩⟩
  · refine ⟨_, told, .inr ⟨w₁, start, ?_⟩⟩
    have between := shape w₁
    simp only [List.mem_cons, List.not_mem_nil, or_false] at between
    rcases between with nothing | loaded | ran
    · simp [nothing]
    · simp [loaded]
    · simp [ran]

end

/-- **The use of a provider for an identity.** A format without a meaning, the engines' format without a
provider, and an unknown engine end the use before there is a provider. A provider that is made is used as
one that is given would be. With a provider that is given, whatever it and the block do: if it cannot be
made ready, that is the outcome; else the outcome is that of loading the identity, if it fails, or of the
block, unless shutting down fails. And if all of these leave some notebook alone, the notes say that the
provider was made ready once and, if this succeeded, shut down once in the end, and that in between the key
was loaded and then the block was run, each once or not at all. -/
theorem useNamed_lifecycle (key format certificate : Value) (password : Option Bytes)
    (block : Identity → Run α) :
    (∀ p origin w, KeyFormat.ofValue format = .error p →
      useNamed key format certificate origin password block w = (.error (.failure (.configuration p)), w)) ∧
    (∀ w, KeyFormat.ofValue format = .ok .engine → useNamed key format certificate .files password block w
      = (.error (.failure (.configuration .engineRequired)), w)) ∧
    (∀ f name options w, KeyFormat.ofValue format = .ok f →
      Text.isNameInAnyCase KeyProblem.engineName name = false →
      useNamed key format certificate (.engine name options) password block w
        = (.error (.failure (.configuration (.unknownEngine name))), w)) ∧
    (∀ f origin p w, KeyFormat.ofValue format = .ok f →
      IdentityRequest.AsksFor ⟨key, f, certificate, origin, password⟩ w.environment p →
      (origin = .files → f ≠ .engine) → useNamed key format certificate origin password block w
        = useNamed key format certificate (.given (p.source w.providers.length)) password block
          { w with providers := w.providers ++ [p] }) ∧
    (∀ f s w, KeyFormat.ofValue format = .ok f →
      let r : IdentityRequest := ⟨key, f, certificate, .given s, password⟩
      let used := useNamed key format certificate (.given s) password block w
      (∀ e w₁, s.setUp w = (.error e, w₁) → used = (.error e, w₁)) ∧
      (∀ inner w₁ w₂ w₃, s.setUp w = (.ok (), w₁) →
        ((∃ e, load s r w₁ = (.error e, w₂) ∧ inner = .error e) ∨
          ∃ i v, load s r w₁ = (.ok i, v) ∧ block i v = (inner, w₂)) →
        (∀ e, s.shutDown w₂ = (.error e, w₃) → used = (.error e, w₃)) ∧
        (s.shutDown w₂ = (.ok (), w₃) → used = (inner, w₃)))) ∧
    (∀ (notebook : Notebook) f s w, KeyFormat.ofValue format = .ok f → Leaves notebook.Same s.setUp →
      (∀ reference format c password,
        Leaves notebook.Same (s.loadKey reference format c password)) →
      Leaves notebook.Same s.shutDown → (∀ i, Leaves notebook.Same (block i)) →
      let used := useNamed key format certificate (.given (notebook.watched s)) password
        (fun i => notebook.watch .block (block i)) w
      ∃ uses, notebook.read used.2 = notebook.read w ++ uses.flatMap Use.notes ∧
        ((∃ e w₁, (notebook.watched s).setUp w = (.error e, w₁) ∧ uses = [Use.setUp]) ∨
        ∃ w₁, (notebook.watched s).setUp w = (.ok (), w₁) ∧
          uses ∈ [[.setUp, .shutDown], [.setUp, .loadKey, .shutDown],
            [.setUp, .loadKey, .block, .shutDown]])) := by
  refine ⟨fun p origin w unknown => useNamed_of_unknown unknown w, fun w known => ?_,
    fun f name options w known unknown => ?_, fun f origin p w known asked able => ?_,
    fun f s w known => ⟨fun e w₁ start => ?_, fun inner w₁ w₂ w₃ start ends => ⟨fun e shut => ?_,
      fun shut => ?_⟩⟩,
    fun notebook f s w known setUp loadKey shutDown kept =>
      read_useNamed known setUp loadKey shutDown kept w⟩
  · rw [useNamed_of_known known]
    apply use_of_error
    rw [provider_of_files rfl, if_pos rfl]
  · rw [useNamed_of_known known]
    exact use_of_error (provider_of_unknown rfl unknown w)
  · rw [useNamed_of_known known, useNamed_of_known known]
    exact use_of_made (provider_of_asked asked able)
  · exact (useNamed_given known s w).trans (KeySource.session_of_error start)
  · exact useNamed_given_of_ok known start ends shut
  · exact useNamed_given_of_ok known start ends shut

end Identity

/-! ## Notes in the journal -/

/-- A note as something that a provider tells. -/
def Note.remark : Note → Event
  | begins .setUp => .remark "initialize"
  | ends .setUp => .remark "initialized"
  | begins .loadKey => .remark "load"
  | ends .loadKey => .remark "loaded"
  | begins .block => .remark "enter"
  | ends .block => .remark "left"
  | begins .shutDown => .remark "shut down"
  | ends .shutDown => .remark "closed"

/-- The note that an event is, if it is one. -/
def Note.ofEvent? (e : Event) : Option Note :=
  ([Use.setUp, .loadKey, .block, .shutDown].flatMap Use.notes).find? (·.remark = e)

/-- A note that was told is read off the journal again. -/
theorem Note.ofEvent?_remark (x : Note) : ofEvent? x.remark = some x := by
  rcases x with u | u <;> cases u <;> decide

/-- Notes in the journal, between everything else that is told. -/
def Notebook.journal : Notebook where
  read w := w.journal.filterMap Note.ofEvent?
  write x w := w.tell x.remark
  read_write x w := by
    simp [World.tell, List.filterMap_append, Note.ofEvent?_remark]
  read_tell subject key provider w := by
    have other : Note.ofEvent? (.identityOpened subject key provider) = none := rfl
    simp [World.tell, List.filterMap_append, other]

/-- A provider that is made ready, cannot load keys and cannot be shut down. -/
def KeySource.stuck : KeySource where
  kind := .file
  name := "stuck"
  setUp := pure ()
  loadKey _ _ _ _ := fail (.key (.refused "no keys" none))
  shutDown := fail (.key (.refused "stuck" none))

/-- With a provider that is stuck, the failure to be shut down is what comes of an identity without a
certificate, and the notes are those of a session. -/
theorem Identity.useNamed_lifecycle_stuck :
    let w := World.initial .empty [] (fun _ _ _ => ⟨0, [], none⟩)
    let block : Identity → Run Unit := fun _ => pure ()
    let used := useNamed (.text "k") (.text "pem") (.text "c") (.given .stuck) none block w
    let noted := useNamed (.text "k") (.text "pem") (.text "c")
      (.given (Notebook.journal.watched .stuck)) none (fun i => Notebook.journal.watch .block (block i)) w
    used.1 = .error (.failure (.key (.refused "stuck" none))) ∧
    ∃ uses, Notebook.journal.read noted.2 = uses.flatMap Use.notes ∧
      uses ∈ [[.setUp, .shutDown], [.setUp, .loadKey, .shutDown],
        [.setUp, .loadKey, .block, .shutDown]] := by
  intro w block used noted
  have known : KeyFormat.ofValue (.text "pem") = .ok .pem := by decide +kernel
  obtain ⟨-, -, -, -, outcome, order⟩ :=
    useNamed_lifecycle (.text "k") (.text "pem") (.text "c") none block
  constructor
  · have absent : load .stuck ⟨.text "k", .pem, .text "c", .given .stuck, none⟩ w
        = (.error (.failure (.reading (.absent .certificate "c"))), w) := by
      have unfound : InputFile.octets .empty .certificate "c"
          = .error (.problem (.absent .certificate "c")) := by decide +kernel
      have missing : InputFile.certificate .empty "c"
          = .error (.failure (.reading (.absent .certificate "c"))) := by
        unfold InputFile.certificate
        rw [unfound]
        rfl
      unfold load
      rw [text_bind, bind_of_ok (get_eq_ok.2 ⟨rfl, rfl⟩)]
      change (lift id (InputFile.certificate .empty "c") >>= _) w = _
      rw [missing]
      rfl
    exact congrArg Prod.fst (((outcome .pem .stuck w known).2 _ w w w rfl (.inl ⟨_, absent, rfl⟩)).1 _ rfl)
  · obtain ⟨uses, told, ⟨e, w₁, failed, -⟩ | ⟨w₁, -, shape⟩⟩ := order Notebook.journal .pem .stuck w known
      (leaves_pure _) (fun _ _ _ _ => leaves_fail _) (leaves_fail _) (fun _ => leaves_pure _)
    · cases (Prod.mk.inj failed).1
    · exact ⟨uses, told, shape⟩

end ImageSigning
