import ImageSigning.Proofs.Token.Calls

/-!
# The states of the providers

After any calls on any providers, token keys are routed through a provider in session or not at all, and
the private directories are those of the providers in session, one each. So a token key never meets a
provider that is not ready, what cannot be made ready changes nothing, and nothing is left once all
providers are shut down.

* **`World.IsSound`**, **`World.IsSound.after`** — what any calls keep.
* **`SigningKey.sign_eq_key_iff`** — a key problem when signing is a token key that is not routed.
* **`World.not_isOpen_after`** — a provider that was shut down stays so until it is made ready.
* **`World.states_after`** — the state machine of the providers.
-/

namespace ImageSigning

open Run

/-! ## What holds at any time -/

namespace World

variable {w w' : World} {t : Option Transition}

/-- Token keys are routed through a provider in session, and the private directories are those of the
providers in session, one each. -/
structure IsSound (w : World) : Prop where
  registered : ∀ n, w.registered = some n → w.IsOpen n
  directories : ∀ d, d ∈ w.directories ↔ ∃ n, w.IsOpenIn n d
  nodup : w.directories.Nodup
  distinct : ∀ n m d, w.IsOpenIn n d → w.IsOpenIn m d → n = m

/-- Surroundings in which nothing happened yet are sound. -/
theorem isSound_initial (files : FileSystem) (environment : List (String × String))
    (respond : Nat → Nat → ToolRequest → ToolOutcome) :
    (initial files environment respond).IsSound where
  registered n routed := by cases routed
  directories d := by simp [initial, IsOpenIn]
  nodup := List.nodup_nil
  distinct n m d here := by simp [initial, IsOpenIn] at here

/-- **One change keeps it.** -/
theorem IsSound.moves (h : w.IsSound) (moves : w.Moves w' t) : w'.IsSound := by
  have opened := moves.isOpen_iff
  cases moves with
  | @opens n new sessions directories registered =>
    have free := w.freeDirectory_not_mem
    refine ⟨?_, ?_, ?_, ?_⟩
    · intro m here
      obtain rfl := Option.some.inj (registered.symm.trans here)
      exact (opened n).2 (.inl rfl)
    · intro d
      rw [directories, List.mem_append, List.mem_singleton, h.directories]
      simp only [sessions]
      constructor
      · rintro (⟨m, here⟩ | rfl)
        · exact ⟨m, .inr here⟩
        · exact ⟨n, .inl ⟨rfl, rfl⟩⟩
      · rintro ⟨m, ⟨-, rfl⟩ | here⟩
        · exact .inr rfl
        · exact .inl ⟨m, here⟩
    · rw [directories, List.nodup_append]
      refine ⟨h.nodup, List.pairwise_singleton _ _, fun a m b m' same => ?_⟩
      rw [same, List.mem_singleton.1 m'] at m
      exact free m
    · -- the new directory is nobody else's, since none was there under its number
      have fresh (m : Nat) : ¬ w.IsOpenIn m w.freeDirectory := fun here =>
        free ((h.directories _).2 ⟨m, here⟩)
      intro k m d first second
      rcases (sessions k d).1 first with ⟨rfl, rfl⟩ | first
      · rcases (sessions m w.freeDirectory).1 second with ⟨rfl, -⟩ | second
        · rfl
        · exact (fresh m second).elim
      · rcases (sessions m d).1 second with ⟨-, rfl⟩ | second
        · exact (fresh k first).elim
        · exact h.distinct k m d first second
  | @closes n d here sessions directories registered =>
    refine ⟨?_, ?_, ?_, ?_⟩
    · intro m routed
      rw [registered] at routed
      by_cases own : w.registered = some n
      · rw [if_pos own] at routed
        cases routed
      · rw [if_neg own] at routed
        refine (opened m).2 (.inr ⟨h.registered m routed, ?_⟩)
        intro same
        cases same
        exact own routed
    · intro d'
      rw [directories, h.nodup.mem_erase_iff, h.directories]
      simp only [sessions]
      constructor
      · rintro ⟨other, m, there⟩
        refine ⟨m, ?_, there⟩
        rintro rfl
        exact other (there.unique here)
      · rintro ⟨m, other, there⟩
        refine ⟨?_, m, there⟩
        rintro rfl
        exact other (h.distinct m n _ there here)
    · rw [directories]
      exact h.nodup.erase d
    · intro k m d' first second
      exact h.distinct k m d' ((sessions k d').1 first).2 ((sessions m d').1 second).2
  | stays sessions directories registered =>
    refine ⟨?_, ?_, ?_, ?_⟩
    · intro m here
      exact (opened m).2 (.inr ⟨h.registered m (registered.symm.trans here), by simp⟩)
    · intro d
      rw [directories, h.directories]
      simp only [sessions]
    · rw [directories]
      exact h.nodup
    · intro k m d first second
      exact h.distinct k m d ((sessions k d).1 first) ((sessions m d).1 second)

/-- **Any calls keep it.** -/
theorem IsSound.after (h : w.IsSound) (calls : List Call) : (w.after calls).IsSound :=
  after_of_next (fun c _ v sound => sound.moves (c.moves v)) h

/-- Without a provider in session, nothing is routed and no private directory is there. -/
theorem IsSound.idle (h : w.IsSound) (shut : ∀ n, ¬ w.IsOpen n) :
    w.registered = none ∧ w.directories = [] := by
  constructor
  · rcases routed : w.registered with _ | n
    · rfl
    · exact (shut n (h.registered n routed)).elim
  · apply List.eq_nil_iff_forall_not_mem.2
    intro d here
    obtain ⟨n, inside⟩ := (h.directories d).1 here
    exact shut n inside.isOpen

end World

/-! ## Being shut down -/

namespace Call

variable {w : World} {c : Call} {n : Nat}

/-- A session is opened by making its provider ready, and by nothing else. -/
theorem eq_setUp_of_opened (h : c.transition? w = some (.opened n)) : c = setUp n := by
  cases c with
  | setUp m => simpa [transition?] using (Option.ite_none_right_eq_some.1 h).2
  | shutDown m => simpa using (Option.ite_none_right_eq_some.1 h).2
  | _ => cases h

/-- A session is closed by shutting its provider down, and by nothing else. -/
theorem eq_shutDown_of_closed (h : c.transition? w = some (.closed n)) : c = shutDown n := by
  cases c with
  | setUp m => simpa using (Option.ite_none_right_eq_some.1 h).2
  | shutDown m => simpa using (Option.ite_none_right_eq_some.1 h).2
  | _ => cases h

/-- Whatever is called, a provider without a session has none until it is made ready. -/
theorem not_isOpen_next (shut : ¬ w.IsOpen n) (other : c ≠ setUp n) : ¬ (c.next w).IsOpen n := by
  rw [(c.moves w).isOpen_iff n]
  rintro (opened | ⟨here, -⟩)
  · exact other (eq_setUp_of_opened opened)
  · exact shut here

/-- A token that was just shut down is not open. -/
theorem not_isOpen_shutDown (n : Nat) (w : World) : ¬ ((shutDown n).next w).IsOpen n := by
  change ¬ (Provider.shutDown n w).2.IsOpen n
  rcases Provider.shutDown_moves n w with ⟨shut, ran⟩ | ⟨-, w', ran, moves⟩
  · rwa [ran]
  · rw [ran, moves.isOpen_iff]
    simp

end Call

namespace World

variable {w : World} {n : Nat}

/-- A token that is shut and never set up is not open afterwards. -/
theorem not_isOpen_after (calls : List Call) (shut : ¬ w.IsOpen n) (never : .setUp n ∉ calls) :
    ¬ (w.after calls).IsOpen n := by
  apply after_of_next (P := fun v => ¬ v.IsOpen n) _ shut
  intro c m v shut
  exact Call.not_isOpen_next shut (ne_of_mem_of_not_mem m never)

/-- A provider that was shut down has no session until it is made ready again. -/
theorem not_isOpen_after_shutDown (calls later : List Call) (never : .setUp n ∉ later) :
    ¬ (w.after (calls ++ .shutDown n :: later)).IsOpen n := by
  rw [after_append, after_cons]
  exact not_isOpen_after later (Call.not_isOpen_shutDown n _) never

end World

/-! ## Problems with keys -/

namespace Engine

variable {n : Nat} {e : Engine} {s : Session} {w : World}

/-- That the tool is not run is no problem with the key. -/
theorem toolRun_ne_key {attributes : Option KeyReference.Attributes} {m : Mechanism} {message : Bytes}
    {files : FileSystem} {environment : List (String × String)} (p : KeyProblem) :
    e.toolRun s attributes m message files environment ≠ .error (.failure (.key p)) := by
  intro h
  unfold toolRun at h
  split at h
  · cases h
  · split at h
    · cases h
    · split at h
      · cases h
      · split at h
        · cases h
        · cases h

/-- The answer of a tool is never a problem with a key. -/
theorem answer_ne_key {m : Mechanism} {did : ToolOutcome} {signature : Option Bytes} (p : KeyProblem) :
    e.answer m did signature ≠ .error (.failure (.key p)) := by
  intro h
  unfold answer at h
  split at h
  · cases h
  · split at h
    · cases h
    · cases h

/-- Signing in a session may fail, but not for a problem with the key. -/
theorem sign_ne_key (session : e.session = some s) (attributes : Option KeyReference.Attributes)
    (m : Mechanism) (message : Bytes) (p : KeyProblem) :
    (e.sign n attributes m message w).1 ≠ .error (.failure (.key p)) := by
  rw [sign_eq session]
  rcases ran : e.toolRun s attributes m message w.files w.environment with f | c
  · intro same
    obtain rfl : f = .failure (.key p) := by simpa using same
    exact toolRun_ne_key p ran
  · exact answer_ne_key p

end Engine

/-- A key that is held in memory never fails with a problem of its own. -/
theorem SigningKey.sign_inMemory_ne_key {key : PrivateKey} {f : HashFunction} {message : Bytes} {w : World}
    (p : KeyProblem) : ((inMemory key).sign f message w).1 ≠ .error (.failure (.key p)) := by
  unfold sign
  dsimp only
  by_cases able : canSign key = true
  · rw [if_neg (by simp [able])]
    rcases key.sign? f message with _ | b
    · exact fun same => by cases same
    · exact fun same => by cases same
  · rw [if_pos (by simp [able])]
    exact fun same => by cases same

/-- Where what token keys are routed through is in session, the only problem with a key is that token keys
are not routed through its provider. -/
theorem SigningKey.sign_eq_key_iff {w : World} (routes : ∀ n, w.registered = some n → w.IsOpen n)
    (key : SigningKey) (f : HashFunction) (message : Bytes) (p : KeyProblem) :
    (key.sign f message w).1 = .error (.failure (.key p)) ↔ ∃ n attributes algorithm,
      key = .onToken n attributes algorithm ∧ w.registered ≠ some n ∧
      p = .outsideSession attributes (w.providers[n]?.getD .files).name := by
  cases key with
  | inMemory key =>
    constructor
    · intro h
      exact (sign_inMemory_ne_key p h).elim
    · rintro ⟨n, attributes, algorithm, here, -⟩
      cases here
  | onToken n attributes algorithm =>
    by_cases routed : w.registered = some n
    · constructor
      · intro h
        exfalso
        rw [sign_of_routed routed] at h
        split at h
        · cases h
        · obtain ⟨d, inside⟩ := World.isOpen_iff.1 (routes n routed)
          obtain ⟨e, s, here, session, -⟩ := inside.exists_session
          rw [Provider.sign_of_token here] at h
          exact Engine.sign_ne_key session _ _ _ p h
      · rintro ⟨m, _, _, here, other, -⟩
        cases here
        exact (other routed).elim
    · rw [sign_of_unrouted routed]
      constructor
      · intro h
        have same : p = .outsideSession attributes (w.providers[n]?.getD .files).name := by
          simpa [outside, eq_comm] using h
        exact ⟨n, attributes, algorithm, rfl, routed, same⟩
      · rintro ⟨_, _, _, here, -, rfl⟩
        cases here
        rfl

/-- Making an engine ready fails exactly for what it lacks, and then nothing changes. -/
theorem Provider.setUp_eq_error_iff {w w' : World} {n : Nat} {e : Engine}
    (here : w.providers[n]? = some (.token e)) (f : Fault) :
    setUp n w = (.error f, w') ↔ readiness e w.files w.environment = .error f ∧ w' = w := by
  rw [setUp_of_token here, setUpEngine_eq]
  rcases readiness e w.files w.environment with g | tool
  · constructor
    · intro h
      obtain ⟨same, rfl⟩ := Prod.mk.inj h
      exact ⟨congrArg Except.error (Except.error.inj same), rfl⟩
    · rintro ⟨same, rfl⟩
      cases same
      rfl
  · constructor
    · intro h
      cases (Prod.mk.inj h).1
    · rintro ⟨here, -⟩
      cases here

/-- Otherwise it opens a session, and token keys are routed through the engine. -/
theorem Provider.setUp_of_ready {w : World} {n : Nat} {e : Engine} {tool : String}
    (here : w.providers[n]? = some (.token e))
    (ready : readiness e w.files w.environment = .ok tool) :
    ∃ w', setUp n w = (.ok (), w') ∧ w'.IsOpen n ∧ w'.registered = some n := by
  rcases setUp_cases here with ⟨f, ran⟩ | ⟨absent, -⟩ | ⟨w', ran, -, -, opened, -, routed, -⟩
  · obtain ⟨failed, -⟩ := (setUp_eq_error_iff here f).1 ran
    cases ready.symm.trans failed
  · cases absent
  · exact ⟨w', ran, opened.isOpen, routed⟩

/-! ## The state machine -/

/-- **The state machine of the providers.** After any calls on any providers: token keys are routed through
a provider in session or not at all, and the private directories are those of the providers in session, one
each; an engine is made ready exactly if it has no session and its tool and module are there, and changes
nothing otherwise; nor does shutting down without a session; a tool is run only for signing with a key of
the provider that token keys are routed through, in that provider's directory, and such a key never meets a
provider that is not ready; a provider that was shut down is out of session until it is made ready again;
and with no provider in session nothing is routed and no private directory is there. -/
theorem World.states_after (files : FileSystem) (environment : List (String × String))
    (respond : Nat → Nat → ToolRequest → ToolOutcome) (calls : List Call) :
    let w := (initial files environment respond).after calls
    w.IsSound ∧
    (∀ n e, w.providers[n]? = some (.token e) →
      (∀ f w', Provider.setUp n w = (.error f, w') ↔
        Provider.readiness e w.files w.environment = .error f ∧ w' = w) ∧
      (∀ tool, Provider.readiness e w.files w.environment = .ok tool →
        ∃ w', Provider.setUp n w = (.ok (), w') ∧ w'.IsOpen n ∧ w'.registered = some n)) ∧
    (∀ n, ¬ w.IsOpen n → Provider.shutDown n w = (.ok (), w)) ∧
    (∀ c : Call, (c.next w).calls = w.calls ∨ ∃ n attributes algorithm f message d program arguments,
      c = .sign (.onToken n attributes algorithm) f message ∧ w.registered = some n ∧ w.IsOpenIn n d ∧
      (c.next w).calls = w.calls ++ [⟨program, arguments, d, message⟩]) ∧
    (∀ (key : SigningKey) f message,
      (key.sign f message w).1 ≠ .error (.failure (.key .notInitialized))) ∧
    (∀ n, (∃ before later, calls = before ++ .shutDown n :: later ∧ .setUp n ∉ later) →
      ¬ w.IsOpen n) ∧
    ((∀ n, ¬ w.IsOpen n) → w.registered = none ∧ w.directories = []) := by
  intro w
  have sound : w.IsSound := (isSound_initial files environment respond).after calls
  refine ⟨sound,
    fun n e here => ⟨fun f _ => Provider.setUp_eq_error_iff here f,
      fun _ => Provider.setUp_of_ready here⟩,
    fun n => Provider.shutDown_of_idle, Call.calls_cases w, fun key f message unready => ?_, ?_,
    sound.idle⟩
  · obtain ⟨n, attributes, algorithm, -, -, other⟩ :=
      (SigningKey.sign_eq_key_iff sound.registered key f message _).1 unready
    cases other
  · rintro n ⟨before, later, rfl, never⟩
    exact not_isOpen_after_shutDown before later never

/-- Files of which one is a tool. -/
def signingTool : FileSystem := ⟨[(["t"], .file ⟨[], 0o755, some 0⟩)], []⟩

/-- Two engines with this tool, the second made ready in the first one's session. -/
def twoEngines : List Call :=
  [.create (some "pkcs11") [("tool", .text "./t")], .create (some "pkcs11") [("tool", .text "./t")],
    .setUp 0, .setUp 1]

/-- Two engines in session, the second one's key in use, and both shut down. -/
theorem World.states_after_twoEngines :
    let w := initial signingTool [] (fun _ _ _ => ⟨0, [], some [1]⟩)
    let key := SigningKey.onToken 1 [("object", "k")] "RSA"
    let used := twoEngines ++ [.sign key .sha256 [7]]
    let ended := used ++ [.shutDown 1, .shutDown 0]
    (w.after used).registered = some 1 ∧ (w.after used).IsOpenIn 1 1 ∧ 1 ∈ (w.after used).directories ∧
    (w.after used).calls.map (·.request.directory) = [1] ∧
    Provider.setUp 0 (w.after used) = (.error (.failure (.key .alreadyInitialized)), w.after used) ∧
    Provider.shutDown 1 (w.after ended) = (.ok (), w.after ended) ∧
    (w.after ended).registered = none ∧ (w.after ended).directories = [] := by
  intro w key used ended
  obtain ⟨sound, ready, -⟩ := states_after signingTool [] (fun _ _ _ => ⟨0, [], some [1]⟩) used
  obtain ⟨-, -, idle, -, -, closed, left⟩ :=
    states_after signingTool [] (fun _ _ _ => ⟨0, [], some [1]⟩) ended
  have inside : (w.after used).IsOpenIn 1 1 := by decide +kernel
  have inUse : (w.after used).providers[0]?
      = some (.token ⟨none, none, "./t", some ⟨"./t", 0, none, none⟩⟩) := by decide +kernel
  have two : (w.after ended).providers.length = 2 := by decide +kernel
  have unready := ((ready 0 _ inUse).1 (.failure (.key .alreadyInitialized)) _).2 ⟨rfl, rfl⟩
  have shut (n : Nat) : ¬ (w.after ended).IsOpen n := by
    rcases n with _ | _ | n
    · exact closed 0 ⟨used ++ [.shutDown 1], [], rfl, List.not_mem_nil⟩
    · exact closed 1 ⟨used, [.shutDown 0], rfl, by simp⟩
    · unfold IsOpen
      rw [List.getElem?_eq_none (by omega)]
      simp
  exact ⟨by decide +kernel, inside, (sound.directories 1).2 ⟨1, inside⟩, by decide +kernel, unready,
    idle 1 (shut 1), left shut⟩

end ImageSigning
