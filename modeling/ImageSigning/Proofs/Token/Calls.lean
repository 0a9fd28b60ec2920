import ImageSigning.Proofs.Session
import ImageSigning.Proofs.Token.Signing

/-!
# Calls on the providers of keys

Providers are made, made ready, shut down and asked for keys, and keys sign, in any order and with any
success. A call opens the session of one provider, closes the session of one, or leaves all sessions as
they are. Only signing with a token key runs a tool, if token keys are routed through the key's provider.

* **`Call.moves`** — what one call does to the sessions, the directories and the routing.
* **`World.Moves.isOpen_iff`**, **`World.Moves.registered_eq`** — the same, read off the change.
* **`Call.calls_cases`** — which call runs a tool, and where.
-/

namespace ImageSigning

open Run

/-! ## Calls -/

/-- A call on the providers of keys, or what happens besides. -/
inductive Call where
  | create (engine : Option String) (options : List (String × Value))
  | setUp (n : Nat)
  | shutDown (n : Nat)
  | loadKey (n : Nat) (reference : Value) (format : KeyFormat) (c : Certificate)
      (password : Option Bytes)
  | sign (key : SigningKey) (f : HashFunction) (message : Bytes)
  /-- Files and environment change, and something is told. -/
  | besides (files : FileSystem) (environment : List (String × String)) (journal : List Event)

/-- The surroundings after a call, however it ends. -/
def Call.next (w : World) : Call → World
  | create engine options => (Provider.create engine options w).2
  | setUp n => (Provider.setUp n w).2
  | shutDown n => (Provider.shutDown n w).2
  | loadKey n reference format c password =>
    ((Provider.sourceOf n >>= fun s => s.loadKey reference format c password) w).2
  | sign key f message => (key.sign f message w).2
  | besides files environment journal => { w with files, environment, journal }

namespace World

/-- The surroundings after calls, one after the other. -/
def after (w : World) (calls : List Call) : World := calls.foldl Call.next w

/-- No call changes nothing. -/
@[simp] theorem after_nil (w : World) : w.after [] = w := rfl

/-- The first call of a series is made before the others. -/
@[simp] theorem after_cons (w : World) (c : Call) (calls : List Call) :
    w.after (c :: calls) = (c.next w).after calls := rfl

/-- A series of calls is made part by part. -/
@[simp] theorem after_append (w : World) (calls more : List Call) :
    w.after (calls ++ more) = (w.after calls).after more := List.foldl_append

/-- What each of some calls keeps, all of them keep. -/
theorem after_of_next {P : World → Prop} {calls : List Call}
    (step : ∀ c ∈ calls, ∀ v, P v → P (c.next v)) {w : World} (h : P w) : P (w.after calls) := by
  induction calls generalizing w with
  | nil => exact h
  | cons c calls ih =>
    apply ih
    · intro c' m
      exact step c' (List.mem_cons_of_mem c m)
    · exact step c List.mem_cons_self w h

/-! ## What a call does to the sessions -/

variable {n m d : Nat} {w w' : World}

instance (w : World) (n : Nat) : Decidable (w.IsOpen n) :=
  inferInstanceAs (Decidable (_ = _))

instance (w : World) (n d : Nat) : Decidable (w.IsOpenIn n d) :=
  inferInstanceAs (Decidable (_ = _))

/-- A token that is open in some directory is open. -/
theorem IsOpenIn.isOpen (h : w.IsOpenIn n d) : w.IsOpen n := isOpen_iff.2 ⟨d, h⟩

/-- A token is open in one directory at most. -/
theorem IsOpenIn.unique {d' : Nat} (h : w.IsOpenIn n d) (h' : w.IsOpenIn n d') : d = d' := by
  have same := h.symm.trans h'
  simpa using same

/-- A token is shut exactly if it is open in no directory. -/
theorem not_isOpen_iff : ¬ w.IsOpen n ↔ ∀ d, ¬ w.IsOpenIn n d := by
  rw [isOpen_iff, not_exists]

/-- A token that is closed is not open. -/
theorem IsClosed.not_isOpen (h : w.IsClosed n) : ¬ w.IsOpen n := by
  intro opened
  cases h.symm.trans opened

/-- Whether a token is open depends on the provider of its number alone. -/
theorem isOpenIn_congr (same : w'.providers[m]? = w.providers[m]?) :
    w'.IsOpenIn m d ↔ w.IsOpenIn m d := by
  unfold IsOpenIn
  rw [same]

end World

/-- What can happen to a session. -/
inductive Transition where
  | opened (n : Nat)
  | closed (n : Nat)
  deriving DecidableEq, Repr

/-- What can happen to the sessions, the private directories and the routing in one call. -/
inductive World.Moves (w w' : World) : Option Transition → Prop
  /-- A provider gets a session in a new directory, and token keys are routed through it. -/
  | opens {n : Nat} (new : ¬ w.IsOpen n)
      (sessions : ∀ m d, w'.IsOpenIn m d ↔ (m = n ∧ d = w.freeDirectory) ∨ w.IsOpenIn m d)
      (directories : w'.directories = w.directories ++ [w.freeDirectory])
      (registered : w'.registered = some n) : Moves w w' (some (.opened n))
  /-- The session of a provider ends, with its directory and with the routing through it. -/
  | closes {n d : Nat} (here : w.IsOpenIn n d)
      (sessions : ∀ m d', w'.IsOpenIn m d' ↔ m ≠ n ∧ w.IsOpenIn m d')
      (directories : w'.directories = w.directories.erase d)
      (registered : w'.registered = if w.registered = some n then none else w.registered) :
      Moves w w' (some (.closed n))
  | stays (sessions : ∀ m d, w'.IsOpenIn m d ↔ w.IsOpenIn m d)
      (directories : w'.directories = w.directories) (registered : w'.registered = w.registered) :
      Moves w w' none

namespace World

variable {n : Nat} {w w' : World}

/-- Nothing moves if nothing is done. -/
theorem Moves.refl (w : World) : w.Moves w none := .stays (fun _ _ => Iff.rfl) rfl rfl

/-- What leaves every provider as it is moves nothing. -/
theorem StaysWithin.moves (h : StaysWithin n w w') : w.Moves w' none := by
  refine .stays (fun m d => ?_) h.directories h.registered
  by_cases own : m = n
  · subst own
    unfold IsOpenIn
    rw [h.own]
  · exact isOpenIn_congr (h.others m own)

/-- A provider that is made has no session. -/
theorem moves_create {p : Provider} (shut : p.isOpen = false) :
    w.Moves { w with providers := w.providers ++ [p] } none := by
  refine .stays (fun m d => ?_) rfl rfl
  rcases Nat.lt_trichotomy m w.providers.length with before | rfl | behind
  · exact isOpenIn_congr (List.getElem?_append_left before)
  · have absent : p.directory? = none := by
      rw [← Option.not_isSome_iff_eq_none, p.isSome_directory?, shut]
      exact Bool.false_ne_true
    simp [IsOpenIn, absent]
  · have past : w.providers.length + 1 ≤ m := behind
    have unmade : (w.providers ++ [p])[m]? = none := List.getElem?_eq_none (by simpa using past)
    refine isOpenIn_congr (unmade.trans ?_)
    exact (List.getElem?_eq_none (Nat.le_of_lt behind)).symm

end World

namespace Provider

variable {n : Nat} {w : World}

/-- Making a provider ready fails or does nothing, and nothing changes; or it opens a session. -/
theorem setUp_moves (n : Nat) (w : World) :
    (setUp n w).2 = w ∨ (setUp n w).1 = .ok () ∧ w.Moves (setUp n w).2 (some (.opened n)) := by
  rcases here : w.providers[n]? with _ | p
  · left
    unfold setUp
    rw [bind_of_ok (get_eq_ok.2 ⟨rfl, rfl⟩), here]
    rfl
  · rcases setUp_cases here with
      ⟨f, ran⟩ | ⟨-, ran⟩ | ⟨w', ran, new, apart, opened, more, routed, -⟩
    · exact .inl (congrArg Prod.snd ran)
    · exact .inl (congrArg Prod.snd ran)
    · right
      have shut : ¬ w.IsOpen n := by
        unfold World.IsOpen
        simp [here, new]
      rw [ran]
      refine ⟨rfl, .opens shut (fun m d => ?_) more routed⟩
      by_cases own : m = n
      · subst own
        constructor
        · intro h
          exact .inl ⟨rfl, h.unique opened⟩
        · rintro (⟨-, rfl⟩ | h)
          · exact opened
          · exact (shut h.isOpen).elim
      · rw [World.isOpenIn_congr (apart m own)]
        simp [own]

/-- Shutting a provider down closes its session, or does nothing if it has none. -/
theorem shutDown_moves (n : Nat) (w : World) :
    (¬ w.IsOpen n ∧ shutDown n w = (.ok (), w)) ∨
      w.IsOpen n ∧ ∃ w', shutDown n w = (.ok (), w') ∧ w.Moves w' (some (.closed n)) := by
  by_cases isOpen : w.IsOpen n
  · obtain ⟨d, here⟩ := World.isOpen_iff.1 isOpen
    obtain ⟨w', ran, -, apart, closed, fewer, unrouted⟩ := shutDown_of_open here
    refine .inr ⟨isOpen, w', ran, .closes here (fun m d' => ?_) fewer unrouted⟩
    by_cases own : m = n
    · subst own
      simp [World.not_isOpen_iff.1 closed.not_isOpen d']
    · rw [World.isOpenIn_congr (apart m own)]
      simp [own]
  · exact .inl ⟨isOpen, shutDown_of_idle isOpen⟩

/-- Asking a provider for a key changes nothing. -/
theorem loadKey_eq (n : Nat) (reference : Value) (format : KeyFormat) (c : Certificate)
    (password : Option Bytes) (w : World) :
    ((sourceOf n >>= fun s => s.loadKey reference format c password) w).2 = w := by
  have sourced : sourceOf n w = (.ok ((w.providers[n]?.getD .files).source n), w) := rfl
  rw [bind_of_ok sourced]
  exact ((leaves_loadKey (R := Eq) _ n reference format c password).related w).symm

end Provider

namespace Call

variable {w : World}

/-- What a call does to a session, if it does anything. -/
def transition? (w : World) : Call → Option Transition
  | setUp n => if ¬ w.IsOpen n ∧ ((setUp n).next w).IsOpen n then some (.opened n) else none
  | shutDown n => if w.IsOpen n then some (.closed n) else none
  | _ => none

/-- **What one call does.** -/
theorem moves (w : World) (c : Call) : w.Moves (c.next w) (c.transition? w) := by
  cases c with
  | create engine options =>
    change w.Moves (Provider.create engine options w).2 none
    rcases ran : Provider.create engine options w with ⟨o, w'⟩
    rcases Provider.create_cases ran with ⟨f, -, -, rfl⟩ | ⟨p, -, -, shut, rfl⟩
    · exact World.Moves.refl _
    · exact World.moves_create shut
  | setUp n =>
    have transition : (setUp n).transition? w =
        if ¬ w.IsOpen n ∧ ((Provider.setUp n w).2).IsOpen n then some (.opened n) else none := rfl
    change w.Moves (Provider.setUp n w).2 _
    rw [transition]
    rcases Provider.setUp_moves n w with same | ⟨-, h⟩
    · rw [same, if_neg (fun both => both.1 both.2)]
      exact World.Moves.refl w
    · cases h with
      | opens new sessions directories registered =>
        have opened : (Provider.setUp n w).2.IsOpen n :=
          World.isOpen_iff.2 ⟨_, (sessions n _).2 (.inl ⟨rfl, rfl⟩)⟩
        rw [if_pos ⟨new, opened⟩]
        exact .opens new sessions directories registered
  | shutDown n =>
    have transition : (shutDown n).transition? w =
        if w.IsOpen n then some (.closed n) else none := rfl
    change w.Moves (Provider.shutDown n w).2 _
    rw [transition]
    rcases Provider.shutDown_moves n w with ⟨shut, ran⟩ | ⟨isOpen, w', ran, h⟩
    · rw [ran, if_neg shut]
      exact World.Moves.refl w
    · rw [ran, if_pos isOpen]
      exact h
  | loadKey n reference format c password =>
    change w.Moves ((Provider.sourceOf n >>= fun s => s.loadKey reference format c password) w).2 none
    rw [Provider.loadKey_eq]
    exact World.Moves.refl w
  | sign key f message =>
    change w.Moves (key.sign f message w).2 none
    obtain ⟨n, own⟩ := key.exists_isOf
    exact ((SigningKey.sign_quiet own f message).related w).toStaysWithin.moves
  | besides files environment journal =>
    exact .stays (fun _ _ => Iff.rfl) rfl rfl

end Call

/-! ## The states after a call -/

namespace World

variable {n : Nat} {w w' : World} {t : Option Transition}

/-- The providers in session, after a change. -/
theorem Moves.isOpen_iff (h : w.Moves w' t) (m : Nat) :
    w'.IsOpen m ↔ t = some (.opened m) ∨ w.IsOpen m ∧ t ≠ some (.closed m) := by
  cases h with
  | opens new sessions directories registered =>
    simp only [World.isOpen_iff, sessions]
    constructor
    · rintro ⟨d, ⟨rfl, -⟩ | here⟩
      · exact .inl rfl
      · exact .inr ⟨⟨d, here⟩, by simp⟩
    · rintro (same | ⟨⟨d, here⟩, -⟩)
      · cases same
        exact ⟨_, .inl ⟨rfl, rfl⟩⟩
      · exact ⟨d, .inr here⟩
  | @closes n _ here sessions directories registered =>
    have other : (some (Transition.closed n) ≠ some (.closed m)) ↔ m ≠ n := by
      simp [eq_comm]
    simp only [World.isOpen_iff, sessions, exists_and_left, other, and_comm]
    simp
  | stays sessions directories registered =>
    simp [World.isOpen_iff, sessions]

/-- What token keys are routed through after a change, given what they were routed through before. -/
def routing (before : Option Nat) : Option Transition → Option Nat
  | some (.opened n) => some n
  | some (.closed n) => if before = some n then none else before
  | none => before

/-- After a session was opened, keys are routed through its provider. -/
theorem routing_opened (before : Option Nat) (m : Nat) :
    routing before (some (.opened m)) = some n ↔ m = n := Option.some_inj

/-- After a session was closed, keys are routed through another provider, if they were before. -/
theorem routing_closed (before : Option Nat) (m : Nat) :
    routing before (some (.closed m)) = some n ↔ before = some n ∧ m ≠ n := by
  change (if before = some m then none else before) = some n ↔ _
  by_cases own : before = some m
  · rw [if_pos own, own]
    simp
  · rw [if_neg own]
    refine ⟨fun here => ⟨here, ?_⟩, fun both => both.1⟩
    rintro rfl
    exact own here

/-- The provider that token keys are routed through, after a change. -/
theorem Moves.registered_eq (h : w.Moves w' t) : w'.registered = routing w.registered t := by
  cases h with
  | opens _ _ _ registered => exact registered
  | closes _ _ _ registered => exact registered
  | stays _ _ registered => exact registered

end World

/-! ## Which calls run a tool -/

/-- Surroundings in which no further program was run. -/
def World.RunsNothing (w w' : World) : Prop := w'.calls = w.calls

instance : IsPreorder World World.RunsNothing where
  refl _ := rfl
  trans _ _ _ h h' := Eq.trans h' h

/-- Opening a session runs no tool. -/
theorem Provider.setUp_runsNothing (n : Nat) (w : World) : w.RunsNothing (setUp n w).2 := by
  unfold setUp
  rw [bind_of_ok (get_eq_ok.2 ⟨rfl, rfl⟩)]
  rcases w.providers[n]? with _ | _ | e
  · rfl
  · rfl
  · dsimp only
    rw [setUpEngine_eq]
    cases readiness e w.files w.environment <;> rfl

/-- Closing a session runs no tool. -/
theorem Provider.shutDown_runsNothing (n : Nat) : Leaves World.RunsNothing (shutDown n) := by
  unfold shutDown shutDownEngine unregister
  refine leaves_get.bind fun w => ?_
  split
  · split
    · exact leaves_pure _
    · refine Leaves.bind (leaves_modify fun w => ?_) fun _ => ?_
      · unfold World.RunsNothing
        split <;> rfl
      · exact Leaves.bind (leaves_modify fun w => rfl) fun _ => leaves_modify fun w => rfl
  · exact leaves_pure _

/-- Signing in a session runs the tool in the session's directory, or runs nothing. -/
theorem Engine.sign_calls {w : World} {n : Nat} {e : Engine} {s : Session}
    (session : e.session = some s) (attributes : Option KeyReference.Attributes) (m : Mechanism)
    (message : Bytes) : (e.sign n attributes m message w).2.calls = w.calls ∨
      ∃ program arguments, (e.sign n attributes m message w).2.calls
        = w.calls ++ [⟨program, arguments, s.directory, message⟩] := by
  rw [sign_eq session]
  rcases run : e.toolRun s attributes m message w.files w.environment with f | c
  · exact .inl rfl
  · right
    obtain ⟨program, arguments, rfl⟩ := toolRun_eq_ok run
    exact ⟨program, arguments, rfl⟩

/-- A token that is shut changes nothing when it is asked to sign. -/
theorem Provider.sign_of_shut {w : World} {n : Nat} (shut : ¬ w.IsOpen n)
    (attributes : Option KeyReference.Attributes) (m : Mechanism) (message : Bytes) :
    (Provider.sign n attributes m message w).2 = w := by
  rcases here : w.providers[n]? with _ | _ | e
  · unfold Provider.sign
    rw [bind_of_ok (get_eq_ok.2 ⟨rfl, rfl⟩), here]
    rfl
  · unfold Provider.sign
    rw [bind_of_ok (get_eq_ok.2 ⟨rfl, rfl⟩), here]
    rfl
  · rw [Provider.sign_of_token here]
    rcases session : e.session with _ | s
    · unfold Engine.sign
      rw [session]
      rfl
    · refine absurd ?_ shut
      unfold World.IsOpen
      simp [here, Provider.isOpen, Engine.isInitialized, session]

/-- A provider in session is an engine, and has the session in its directory. -/
theorem World.IsOpenIn.exists_session {w : World} {n d : Nat} (h : w.IsOpenIn n d) :
    ∃ e s, w.providers[n]? = some (.token e) ∧ e.session = some s ∧ s.directory = d := by
  obtain ⟨p, here, inside⟩ := Option.map_eq_some_iff.1 h
  cases p with
  | files => cases inside
  | token e =>
    obtain ⟨s, session, same⟩ := Option.map_eq_some_iff.1 inside
    exact ⟨e, s, here, session, same⟩

/-- Signing with a key runs the tool in the directory of the key's provider, which token keys are then
routed through, or runs nothing. -/
theorem SigningKey.sign_calls (key : SigningKey) (f : HashFunction) (message : Bytes) (w : World) :
    (key.sign f message w).2.calls = w.calls ∨
      ∃ n attributes algorithm d program arguments, key = .onToken n attributes algorithm ∧
        w.registered = some n ∧ w.IsOpenIn n d ∧
        (key.sign f message w).2.calls = w.calls ++ [⟨program, arguments, d, message⟩] := by
  cases key with
  | inMemory key => exact .inl (congrArg World.calls (sign_inMemory key))
  | onToken n attributes algorithm =>
    by_cases routed : w.registered = some n
    · rw [sign_of_routed routed]
      rcases Mechanism.ofAlgorithm? algorithm f with _ | m
      · exact .inl rfl
      dsimp only
      by_cases isOpen : w.IsOpen n
      · obtain ⟨d, inside⟩ := World.isOpen_iff.1 isOpen
        obtain ⟨e, s, here, session, rfl⟩ := inside.exists_session
        rw [Provider.sign_of_token here]
        rcases Engine.sign_calls session (some attributes) m message with same | ran
        · exact .inl same
        · obtain ⟨program, arguments, ran⟩ := ran
          exact .inr ⟨n, attributes, algorithm, s.directory, program, arguments, rfl, routed, inside, ran⟩
      · exact .inl (congrArg World.calls (Provider.sign_of_shut isOpen _ m message))
    · exact .inl (congrArg (World.calls ·.2) (sign_of_unrouted routed))

/-- **Which calls run a tool.** Only signing with a token key does, if token keys are routed through its
provider, and then in the directory of that provider. -/
theorem Call.calls_cases (w : World) (c : Call) : (c.next w).calls = w.calls ∨
    ∃ n attributes algorithm f message d program arguments,
      c = .sign (.onToken n attributes algorithm) f message ∧ w.registered = some n ∧ w.IsOpenIn n d ∧
      (c.next w).calls = w.calls ++ [⟨program, arguments, d, message⟩] := by
  cases c with
  | create engine options =>
    left
    change (Provider.create engine options w).2.calls = w.calls
    rcases ran : Provider.create engine options w with ⟨o, w'⟩
    rcases Provider.create_cases ran with ⟨f, -, -, rfl⟩ | ⟨p, -, -, -, rfl⟩
    · rfl
    · rfl
  | setUp n => exact .inl (Provider.setUp_runsNothing n w)
  | shutDown n => exact .inl ((Provider.shutDown_runsNothing n).related w)
  | loadKey n reference format c password =>
    exact .inl (congrArg World.calls (Provider.loadKey_eq n reference format c password w))
  | besides files environment journal => exact .inl rfl
  | sign key f message =>
    rcases SigningKey.sign_calls key f message w with
      same | ⟨n, attributes, algorithm, d, program, arguments, rfl, routed, inside, ran⟩
    · exact .inl same
    · exact .inr ⟨n, attributes, algorithm, f, message, d, program, arguments, rfl, routed, inside, ran⟩

end ImageSigning
