import ImageSigning.Proofs.Frame

/-!
# Sessions

A provider that is made gets a number that no other has. Making it ready opens a session in a new private
directory, if it is an engine's, and routes token keys through it; shutting it down closes the session,
removes the directory and ends the routing. Nothing in between does either, so a session that has ended
leaves the provider closed, all others as they were, the directories that there were, and token keys not
routed through it, however its block ended. The files are those that the block left.

* **`Provider.setUpEngine_eq`**, **`Provider.setUp_cases`** — making a provider ready fails and changes
  nothing, or opens a session.
* **`Provider.shutDown_of_open`** — shutting a provider down succeeds and closes its session.
* **`Provider.session_cases`** — a session leaves behind what it found and what its block wrote.
* **`Identity.use_cases`** — so does a block with an identity, and one closed provider more.
-/

namespace ImageSigning

open Run

section
variable {n : Nat} {w w' : World}

/-- A provider without a session. -/
def World.IsClosed (w : World) (n : Nat) : Prop := w.providers[n]?.map Provider.isOpen = some false

/-- Surroundings in which at most the provider with a number differs from what it was. -/
def World.SameApart (n : Nat) (w w' : World) : Prop := ∀ m ≠ n, w'.providers[m]? = w.providers[m]?

namespace Provider

/-- The surroundings with the session of an engine whose tool was found at a path, in a private directory
that was not there. -/
def opened (w : World) (n : Nat) (e : Engine) (tool : String) : World :=
  { w.setProvider n (.token { e with session := some ⟨tool, w.freeDirectory, none, none⟩ }) with
    directories := w.directories ++ [w.freeDirectory], registered := some n }

/-- The path of the tool of an engine that can have a session, or what it lacks: it must have none yet, and
its tool and its module have to be there. -/
def readiness (e : Engine) (fs : FileSystem) (environment : List (String × String)) :
    Except Fault String :=
  if e.isInitialized then .error (.failure (.key .alreadyInitialized))
  else match Tool.find? fs environment e.tool with
    | none => .error (.failure (.key (.toolAbsent e.tool)))
    | some tool => (checkModule fs e.module).map fun _ => tool

/-- Making an engine ready fails and changes nothing, or opens a session. -/
theorem setUpEngine_eq (n : Nat) (e : Engine) (w : World) :
    setUpEngine n e w = match readiness e w.files w.environment with
      | .error f => (.error f, w)
      | .ok tool => (.ok (), (opened w n e tool).tell (.engineInitialized tool)) := by
  unfold setUpEngine readiness
  by_cases used : e.isInitialized = true
  · rw [if_pos used, if_pos used]
    rfl
  rw [if_neg used, if_neg used]
  dsimp only
  rw [bind_of_ok (get_eq_ok.2 ⟨rfl, rfl⟩)]
  rcases Tool.find? w.files w.environment e.tool with _ | tool
  · rfl
  · dsimp only
    rcases checkModule w.files e.module with f | ⟨⟩
    · rfl
    · rfl

/-- Making the provider with a number ready is making the engine ready that has it. -/
theorem setUp_of_token {e : Engine} (here : w.providers[n]? = some (.token e)) :
    setUp n w = setUpEngine n e w := by
  unfold setUp
  rw [bind_of_ok (get_eq_ok.2 ⟨rfl, rfl⟩), here]

/-- An engine that can have a session has none. -/
theorem isInitialized_of_readiness {e : Engine} {fs : FileSystem}
    {environment : List (String × String)} {tool : String}
    (h : readiness e fs environment = .ok tool) : e.isInitialized = false := by
  unfold readiness at h
  split at h
  · cases h
  · rename_i idle
    simpa using idle

/-- Making a provider ready fails and changes nothing; or a provider of key files stays as it is; or an
engine without a session gets one and token keys are routed through it. -/
theorem setUp_cases {p : Provider} (here : w.providers[n]? = some p) :
    (∃ f, setUp n w = (.error f, w)) ∨ (p = .files ∧ setUp n w = (.ok (), w)) ∨
    ∃ w', setUp n w = (.ok (), w') ∧ p.isOpen = false ∧ w.SameApart n w' ∧
      w'.IsOpenIn n w.freeDirectory ∧ w'.directories = w.directories ++ [w.freeDirectory] ∧
      w'.registered = some n ∧ w'.files = w.files := by
  cases p with
  | files =>
    refine .inr (.inl ⟨rfl, ?_⟩)
    unfold setUp
    rw [bind_of_ok (get_eq_ok.2 ⟨rfl, rfl⟩), here]
    rfl
  | token e =>
    obtain ⟨inside, -⟩ := List.getElem?_eq_some_iff.1 here
    rw [setUp_of_token here, setUpEngine_eq]
    rcases ready : readiness e w.files w.environment with f | tool
    · exact .inl ⟨f, rfl⟩
    · refine .inr (.inr ⟨_, rfl, isInitialized_of_readiness ready, ?_, ?_, rfl, rfl, rfl⟩)
      · intro m other
        exact List.getElem?_set_ne other.symm
      · change ((w.providers.set n _)[n]?).map directory? = some (some w.freeDirectory)
        rw [List.getElem?_set_self inside]
        rfl

/-- Shutting down a provider without a session does nothing. -/
theorem shutDown_of_idle (idle : ¬ w.IsOpen n) : shutDown n w = (.ok (), w) := by
  unfold shutDown
  rw [bind_of_ok (get_eq_ok.2 ⟨rfl, rfl⟩)]
  rcases found : w.providers[n]? with _ | _ | e
  · rfl
  · rfl
  · dsimp only
    unfold shutDownEngine
    rcases session : e.session with _ | s
    · rfl
    · have opened : w.IsOpen n := by
        unfold World.IsOpen
        rw [found]
        simp [isOpen, Engine.isInitialized, session]
      exact (idle opened).elim

/-- Shutting down a provider in session closes the session, which token keys are no longer routed
through, removes its private directory, and changes nothing else. -/
theorem shutDown_of_open {d : Nat} (here : w.IsOpenIn n d) : ∃ w', shutDown n w = (.ok (), w') ∧
    w'.files = w.files ∧ w.SameApart n w' ∧ w'.IsClosed n ∧
    w'.directories = w.directories.erase d ∧
    w'.registered = if w.registered = some n then none else w.registered := by
  obtain ⟨p, found, opened⟩ := Option.map_eq_some_iff.1 here
  obtain ⟨inside, -⟩ := List.getElem?_eq_some_iff.1 found
  cases p with
  | files => cases opened
  | token e =>
    obtain ⟨s, session, rfl⟩ := Option.map_eq_some_iff.1 opened
    obtain ⟨v, unrouted⟩ : ∃ v, v = if w.registered = some n then { w with registered := none } else w :=
      ⟨_, rfl⟩
    have files : v.files = w.files := by
      rw [unrouted]
      split <;> rfl
    have providers : v.providers = w.providers := by
      rw [unrouted]
      split <;> rfl
    have directories : v.directories = w.directories := by
      rw [unrouted]
      split <;> rfl
    have registered : v.registered = if w.registered = some n then none else w.registered := by
      rw [unrouted]
      split <;> rfl
    have ran : shutDown n w = (.ok (), { v.setProvider n (.token { e with session := none }) with
        directories := v.directories.erase s.directory }.tell .engineShutDown) := by
      unfold shutDown
      rw [bind_of_ok (get_eq_ok.2 ⟨rfl, rfl⟩), found]
      dsimp only
      unfold shutDownEngine
      rw [session, unrouted]
      rfl
    refine ⟨_, ran, files, fun m other => ?_, ?_, congrArg (·.erase s.directory) directories,
      registered⟩
    · change (v.providers.set n _)[m]? = _
      rw [List.getElem?_set_ne other.symm, providers]
    · change ((v.providers.set n _)[n]?).map isOpen = some false
      rw [providers, List.getElem?_set_self inside]
      rfl

/-- Surroundings in which a provider can be used: a token is in session and keys are routed to it. -/
def IsUsable (p : Provider) (n : Nat) (w : World) : Prop :=
  p = .files ∨ (w.IsOpen n ∧ w.registered = some n)

/-- What a session leaves: all other providers as they were, its own closed, the private directories that
there were, and token keys routed as before or not at all. -/
structure EndsSession (n : Nat) (w w' : World) : Prop where
  others : w.SameApart n w'
  closed : w'.IsClosed n
  directories : w'.directories = w.directories
  registered : w'.registered = w.registered ∨ w'.registered = none

/-- A session whose block opens and closes none ends as it has to, whatever its outcome. It fails at its
start and leaves the files alone, or has the outcome of its block and leaves the files that the block
left. -/
theorem session_cases {α : Type} {p : Provider} {block : Run α} {o : Except Fault α}
    (here : w.providers[n]? = some p) (shut : p.isOpen = false)
    (within : Leaves (World.StaysWithin n) block) (ran : (p.source n).session block w = (o, w')) :
    EndsSession n w w' ∧
      ((∃ f, o = .error f ∧ setUp n w = (.error f, w) ∧ w'.files = w.files) ∨
        ∃ w₁ w₂, w₁.files = w.files ∧ IsUsable p n w₁ ∧ block w₁ = (o, w₂) ∧
          w'.files = w₂.files) := by
  have closed : w.IsClosed n := by
    unfold World.IsClosed
    rw [here]
    exact congrArg some shut
  change (setUp n >>= fun _ => always block (shutDown n)) w = (o, w') at ran
  -- the provider is shut down whatever the block came to, and the outcome is the block's
  have passes {w₁ w₂ w₃ : World} {o₂ : Except Fault α} (start : setUp n w = (.ok (), w₁))
      (inner : block w₁ = (o₂, w₂)) (ended : shutDown n w₂ = (.ok (), w₃)) : o₂ = o ∧ w₃ = w' := by
    have passed : always block (shutDown n) w₁ = (o₂, w₃) := by simp [always, inner, ended]
    rw [bind_of_ok start, passed] at ran
    exact Prod.mk.inj ran
  rcases setUp_cases here with
    ⟨f, start⟩ | ⟨rfl, start⟩ | ⟨w₁, start, -, apart, opened, more, routed, same⟩
  · rw [bind_of_error start] at ran
    obtain ⟨rfl, rfl⟩ := Prod.mk.inj ran
    exact ⟨⟨fun _ _ => rfl, closed, rfl, .inl rfl⟩, .inl ⟨f, rfl, start, rfl⟩⟩
  · rcases inner : block w with ⟨o₂, w₂⟩
    have kept : World.StaysWithin n w w₂ := within.of_eq inner
    have still : w₂.IsClosed n := kept.map_isOpen.trans closed
    have idle : ¬ w₂.IsOpen n := fun opened => by
      cases still.symm.trans opened
    obtain ⟨rfl, rfl⟩ := passes start inner (shutDown_of_idle idle)
    exact ⟨⟨kept.others, still, kept.directories, .inl kept.registered⟩,
      .inr ⟨w, w₂, rfl, .inl rfl, inner, rfl⟩⟩
  · rcases inner : block w₁ with ⟨o₂, w₂⟩
    have kept : World.StaysWithin n w₁ w₂ := within.of_eq inner
    obtain ⟨w₃, ended, files, apart', shut', fewer, unrouted⟩ :=
      shutDown_of_open (kept.own.trans opened)
    obtain ⟨rfl, rfl⟩ := passes start inner ended
    rw [kept.registered, routed, if_pos rfl] at unrouted
    -- the directory was free, so removing it leaves those that were there
    rw [kept.directories, more, List.erase_append_right _ w.freeDirectory_not_mem,
      List.erase_cons_head, List.append_nil] at fewer
    refine ⟨⟨fun m other => ?_, shut', fewer, .inr unrouted⟩,
      .inr ⟨w₁, w₂, same, .inr ⟨World.isOpen_iff.2 ⟨_, opened⟩, routed⟩, inner, files⟩⟩
    exact (apart' m other).trans ((kept.others m other).trans (apart m other))

/-! ## Making a provider -/

/-- A provider that is made is closed and has a number of its own. -/
theorem create_cases {engine : Option String} {options : List (String × Value)}
    {o : Except Fault Nat} (h : create engine options w = (o, w')) :
    (∃ f, o = .error f ∧ ofName engine options w.environment = .error f ∧ w' = w) ∨
    ∃ p, o = .ok w.providers.length ∧ ofName engine options w.environment = .ok p ∧
      p.isOpen = false ∧ w' = { w with providers := w.providers ++ [p] } := by
  unfold create at h
  rw [bind_of_ok (get_eq_ok.2 ⟨rfl, rfl⟩)] at h
  rcases named : ofName engine options w.environment with f | p
  · rw [named] at h
    obtain ⟨rfl, rfl⟩ := Prod.mk.inj h
    exact .inl ⟨f, rfl, rfl, rfl⟩
  · rw [named] at h
    obtain ⟨rfl, rfl⟩ := Prod.mk.inj h
    refine .inr ⟨p, rfl, rfl, ?_, rfl⟩
    unfold ofName at named
    split at named
    · rw [← Except.ok.inj named]
      rfl
    · split at named
      · cases named
      · split at named
        · rw [← Except.ok.inj named]
          rfl
        · cases named

/-- A provider that is made as a source of keys is closed, and its source knows its number. -/
theorem create_sourceOf_cases {engine : Option String} {options : List (String × Value)}
    {o : Except Fault KeySource} (h : (create engine options >>= sourceOf) w = (o, w')) :
    (∃ f, o = .error f ∧ ofName engine options w.environment = .error f ∧ w' = w) ∨
    ∃ p, o = .ok (p.source w.providers.length) ∧ ofName engine options w.environment = .ok p ∧
      p.isOpen = false ∧ w' = { w with providers := w.providers ++ [p] } := by
  rcases bind_cases h with ⟨f, rfl, failed⟩ | ⟨n, w₁, created, h⟩
  · rcases create_cases failed with ⟨f', here, unknown, rfl⟩ | ⟨p, here, -⟩
    · obtain rfl := Except.error.inj here
      exact .inl ⟨f, rfl, unknown, rfl⟩
    · cases here
  · rcases create_cases created with ⟨f, here, -⟩ | ⟨p, here, found, shut, rfl⟩
    · cases here
    · obtain rfl := Except.ok.inj here
      unfold sourceOf at h
      rw [bind_of_ok (get_eq_ok.2 ⟨rfl, rfl⟩)] at h
      dsimp only at h
      rw [List.getElem?_concat_length] at h
      obtain ⟨rfl, rfl⟩ := Prod.mk.inj h
      exact .inr ⟨p, rfl, found, shut, rfl⟩

end Provider

/-! ## A block with an identity -/

/-- What a run leaves that made providers of its own: those that were there, new ones that are closed,
token keys routed as before or not at all, and the private directories that there were. -/
structure World.KeepsProviders (w w' : World) : Prop where
  providers : ∃ made, w'.providers = w.providers ++ made ∧ ∀ p ∈ made, p.isOpen = false
  registered : w'.registered = w.registered ∨ w'.registered = none
  directories : w'.directories = w.directories

/-- A run that is quiet for every provider leaves all as they were. -/
theorem World.providers_eq (quiet : ∀ n, World.IsQuiet n w w') : w'.providers = w.providers := by
  refine List.ext_getElem? fun m => ?_
  exact (quiet (m + 1)).others m (Nat.ne_of_lt (Nat.lt_succ_self m))

/-- What is quiet may come before what keeps the providers. -/
theorem World.KeepsProviders.of_quiet {v : World} (h : v.KeepsProviders w')
    (quiet : ∀ n, World.IsQuiet n w v) : w.KeepsProviders w' := by
  obtain ⟨providers, registered, directories⟩ := h
  rw [World.providers_eq quiet] at providers
  rw [(quiet 0).registered] at registered
  rw [(quiet 0).directories] at directories
  exact ⟨providers, registered, directories⟩

/-- What is quiet keeps the providers. -/
theorem World.keepsProviders_of_quiet (quiet : ∀ n, World.IsQuiet n w w') : w.KeepsProviders w' := by
  have unchanged : w'.KeepsProviders w' := ⟨⟨[], by simp⟩, .inl rfl, rfl⟩
  exact unchanged.of_quiet quiet

/-- Where the providers are kept, there are as many sessions as before. -/
theorem World.KeepsProviders.sessions (h : w.KeepsProviders w') : w'.sessions = w.sessions :=
  congrArg List.length h.directories

/-- A session of a provider that was just made leaves it closed behind the others. -/
theorem Provider.EndsSession.keepsProviders {p : Provider}
    (h : EndsSession w.providers.length { w with providers := w.providers ++ [p] } w') :
    w.KeepsProviders w' := by
  obtain ⟨q, found, shut⟩ := Option.map_eq_some_iff.1 h.closed
  refine ⟨⟨[q], List.ext_getElem? fun m => ?_, by simpa using shut⟩, h.registered, h.directories⟩
  by_cases own : m = w.providers.length
  · rw [own, found, List.getElem?_append_right (Nat.le_refl _), Nat.sub_self]
    rfl
  · have same := h.others m own
    change w'.providers[m]? = (w.providers ++ [p])[m]? at same
    rw [same]
    rcases Nat.lt_or_ge m w.providers.length with before | behind
    · rw [List.getElem?_append_left before, List.getElem?_append_left before]
    · have past : 1 ≤ m - w.providers.length := by omega
      rw [List.getElem?_append_right behind, List.getElem?_append_right behind,
        List.getElem?_eq_none past, List.getElem?_eq_none past]

/-- The provider that a request leads to: key files, or what the engine's name stands for. -/
def IdentityRequest.AsksFor (r : IdentityRequest) (environment : List (String × String))
    (p : Provider) : Prop :=
  (r.origin = .files ∧ p = .files) ∨ ∃ name options, r.origin = .engine name options ∧
    Provider.ofName (some name) options environment = .ok p

namespace Identity

variable {r : IdentityRequest}

/-- Without a provider that is given, one is made; or there is none that can be. -/
theorem provider_cases {o : Except Fault KeySource} (notGiven : ∀ s, r.origin ≠ .given s)
    (h : provider r w = (o, w')) :
    (∃ f, o = .error f ∧ w' = w ∧
      ((r.format = .engine ∧ f = .failure (.configuration .engineRequired)) ∨
        ∃ name options, r.origin = .engine name options ∧
          Provider.ofName (some name) options w.environment = .error f)) ∨
    ∃ p, o = .ok (p.source w.providers.length) ∧ r.AsksFor w.environment p ∧ p.isOpen = false ∧
      w' = { w with providers := w.providers ++ [p] } := by
  unfold provider at h
  rcases origin : r.origin with _ | ⟨name, options⟩ | s
  · rw [origin] at h
    dsimp only at h
    split at h
    · rename_i named
      obtain ⟨rfl, rfl⟩ := Prod.mk.inj h
      exact .inl ⟨_, rfl, rfl, .inl ⟨named, rfl⟩⟩
    · rcases Provider.create_sourceOf_cases h with ⟨f, -, absent, -⟩ | ⟨p, rfl, found, shut, rfl⟩
      · cases absent
      · exact .inr ⟨p, rfl, .inl ⟨origin, (Except.ok.inj found).symm⟩, shut, rfl⟩
  · rw [origin] at h
    rcases Provider.create_sourceOf_cases h with ⟨f, rfl, unknown, rfl⟩ | ⟨p, rfl, found, shut, rfl⟩
    · exact .inl ⟨f, rfl, rfl, .inr ⟨name, options, rfl, unknown⟩⟩
    · exact .inr ⟨p, rfl, .inr ⟨name, options, origin, found⟩, shut, rfl⟩
  · exact (notGiven s origin).elim

/-- A block with an identity from files or an engine is reached or not. If it is, the files are those that
it left. -/
theorem use_cases {α : Type} {block : Identity → Run α} {o : Except Fault α}
    (notGiven : ∀ s, r.origin ≠ .given s)
    (within : ∀ n i, i.key.IsOf n → Leaves (World.StaysWithin n) (block i))
    (ran : use r block w = (o, w')) : w.KeepsProviders w' ∧
      ((∃ f, o = .error f ∧ w'.files = w.files ∧ (provider r w = (.error f, w') ∨
        ∃ p n w₁, r.AsksFor w.environment p ∧ w₁.providers[n]? = some p ∧ w₁.files = w.files ∧
          Provider.setUp n w₁ = (.error f, w₁))) ∨
      ∃ p n w₁ w₂, r.AsksFor w.environment p ∧ w₁.files = w.files ∧ Provider.IsUsable p n w₁ ∧
        (load (p.source n) r >>= block) w₁ = (o, w₂) ∧ w'.files = w₂.files) := by
  unfold use at ran
  rcases bind_cases ran with ⟨f, rfl, failed⟩ | ⟨s, w₁, provided, ran⟩
  · rcases provider_cases notGiven failed with ⟨f', -, rfl, -⟩ | ⟨p, here, -⟩
    · exact ⟨⟨⟨[], by simp⟩, .inl rfl, rfl⟩, .inl ⟨f, rfl, rfl, .inl failed⟩⟩
    · cases here
  · rcases provider_cases notGiven provided with ⟨f, here, -⟩ | ⟨p, here, asked, shut, rfl⟩
    · cases here
    · obtain rfl := Except.ok.inj here
      have last : (w.providers ++ [p])[w.providers.length]? = some p :=
        List.getElem?_concat_length ..
      have inside : Leaves (World.StaysWithin w.providers.length)
          (load (p.source w.providers.length) r >>= block) := by
        refine Leaves.bind_of ?_ ?_
        · exact (load_quiet p _ r).within
        · rintro i ⟨v, v', loaded⟩
          exact within _ i (isOf_of_load loaded)
      obtain ⟨ends, outcome⟩ := Provider.session_cases last shut inside ran
      refine ⟨ends.keepsProviders, ?_⟩
      rcases outcome with ⟨f, rfl, start, same⟩ | ⟨v, v', same, usable, inner, left⟩
      · exact .inl ⟨f, rfl, same,
          .inr ⟨p, _, { w with providers := w.providers ++ [p] }, asked, last, rfl, start⟩⟩
      · exact .inr ⟨p, _, v, v', asked, same, usable, inner, left⟩

end Identity

end

end ImageSigning
