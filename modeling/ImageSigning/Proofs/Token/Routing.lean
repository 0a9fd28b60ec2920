import Mathlib.Data.List.Induction
import ImageSigning.Proofs.Token.States

/-!
# Where token keys are routed

Which sessions were opened and closed says which provider is in session, by the last that happened to it,
and which provider token keys are routed through: the one that was made ready last, as long as it is in
session. A token key is refused exactly if this is not its own provider. So it is not enough that its
provider is in session and that token keys are not routed through another: after a session of another
provider they are routed nowhere, until the key's provider is shut down and made ready again.

* **`World.isOpen_after_iff`**, **`World.registered_after_iff`** — the providers in session and the
  routing, read off the sessions that were opened and closed.
* **`Provider.session_after`** — a session is a history of calls too.
* **`SigningKey.refused_after`** — when a token key is refused.
-/

namespace ImageSigning

open Run

/-! ## Histories of sessions -/

namespace Transition

/-- The provider whose session it is. -/
def provider : Transition → Nat
  | opened n | closed n => n

/-- The provider that is made ready, if one is. -/
def opened? : Transition → Option Nat
  | opened n => some n
  | closed _ => none

/-- What happened last to the sessions of a provider. -/
def lastOf (n : Nat) (history : List Transition) : Option Transition :=
  (history.filter (·.provider = n)).getLast?

/-- The provider that was made ready last. -/
def lastOpened (history : List Transition) : Option Nat := (history.filterMap opened?).getLast?

/-- The last transition of a provider is the one at the end, if that is one of its own. -/
theorem lastOf_concat (n : Nat) (history : List Transition) (t : Transition) :
    lastOf n (history ++ [t]) = if t.provider = n then some t else lastOf n history := by
  unfold lastOf
  rw [List.filter_append]
  by_cases own : t.provider = n
  · simp [own]
  · simp [own]

/-- The provider opened last is the one opened at the end, if one is opened there. -/
theorem lastOpened_concat (history : List Transition) (t : Transition) :
    lastOpened (history ++ [t]) = t.opened?.or (lastOpened history) := by
  unfold lastOpened
  cases t with
  | opened n => simp [opened?]
  | closed n => simp [opened?]

/-- Where a session was opened, a provider was made ready last. -/
theorem isSome_lastOpened {n : Nat} {history : List Transition}
    (h : lastOf n history = some (.opened n)) : (lastOpened history).isSome := by
  have here : .opened n ∈ history := List.mem_of_mem_filter (List.mem_of_getLast? h)
  have ready : n ∈ history.filterMap opened? := List.mem_filterMap.2 ⟨_, here, rfl⟩
  unfold lastOpened
  rw [List.getLast?_isSome]
  exact List.ne_nil_of_mem ready

end Transition

open Transition

namespace World

variable {w : World} {n : Nat}

/-- The sessions that calls open and close, in order. -/
def transitions (w : World) : List Call → List Transition
  | [] => []
  | c :: calls => (c.transition? w).toList ++ (c.next w).transitions calls

/-- The transitions of a series of calls are those of its parts, one behind the other. -/
theorem transitions_append (w : World) (calls more : List Call) :
    w.transitions (calls ++ more) = w.transitions calls ++ (w.after calls).transitions more := by
  induction calls generalizing w with
  | nil => rfl
  | cons c calls ih =>
    rw [List.cons_append, transitions, ih, transitions, List.append_assoc]
    rfl

/-- One call more adds its transition, if it makes one. -/
theorem transitions_concat (w : World) (calls : List Call) (c : Call) :
    w.transitions (calls ++ [c]) = w.transitions calls ++ (c.transition? (w.after calls)).toList := by
  rw [transitions_append, transitions, transitions, List.append_nil]

/-- A provider is in session exactly if the last that happened to it was that its session was opened. -/
theorem isOpen_after_iff (shut : ¬ w.IsOpen n) (calls : List Call) :
    (w.after calls).IsOpen n ↔ lastOf n (w.transitions calls) = some (.opened n) := by
  induction calls using List.reverseRecOn with
  | nil =>
    constructor
    · intro here
      exact (shut here).elim
    · intro here
      cases here
  | append_singleton calls c ih =>
    -- the last call decides, unless it leaves the provider's session alone
    rw [after_append, transitions_concat]
    change (c.next (w.after calls)).IsOpen n ↔ _
    rw [(c.moves (w.after calls)).isOpen_iff n, ih]
    rcases c.transition? (w.after calls) with _ | m | m
    · simp
    · by_cases own : m = n
      · simp [lastOf_concat, Transition.provider, own]
      · simp [lastOf_concat, Transition.provider, own]
    · by_cases own : m = n
      · simp [lastOf_concat, Transition.provider, own]
      · simp [lastOf_concat, Transition.provider, own]

/-- Token keys are routed through a provider exactly if it was made ready last and is in session. -/
theorem registered_after_iff (unrouted : w.registered = none) (calls : List Call) :
    (w.after calls).registered = some n ↔
      lastOpened (w.transitions calls) = some n ∧ (w.after calls).IsOpen n := by
  induction calls using List.reverseRecOn with
  | nil =>
    rw [after_nil, unrouted]
    constructor
    · intro here
      cases here
    · rintro ⟨here, -⟩
      cases here
  | append_singleton calls c ih =>
    rw [after_append, transitions_concat]
    change (c.next (w.after calls)).registered = some n ↔ _ ∧ (c.next (w.after calls)).IsOpen n
    have moves := c.moves (w.after calls)
    rw [moves.registered_eq, moves.isOpen_iff]
    rcases c.transition? (w.after calls) with _ | m | m
    · simp [routing, ih]
    · rw [Option.toList_some, lastOpened_concat, routing_opened]
      simp only [Transition.opened?, Option.some_or, Option.some_inj, Transition.opened.injEq]
      exact ⟨fun here => ⟨here, .inl here⟩, fun both => both.1⟩
    · rw [Option.toList_some, lastOpened_concat, routing_closed, ih]
      simp [Transition.opened?, and_assoc]

/-- Token keys are not routed through a provider exactly if it is not in session, or another one is
what they are routed through, or they are routed nowhere since another one, made ready after it, was
shut down. -/
theorem registered_ne_after_iff (shut : ∀ m, ¬ w.IsOpen m) (unrouted : w.registered = none)
    (calls : List Call) : (w.after calls).registered ≠ some n ↔ ¬ (w.after calls).IsOpen n ∨
      (∃ m, m ≠ n ∧ (w.after calls).registered = some m) ∨
      ((w.after calls).IsOpen n ∧ (w.after calls).registered = none ∧
        ∃ m, lastOpened (w.transitions calls) = some m ∧ ¬ (w.after calls).IsOpen m) := by
  constructor
  · intro other
    by_cases isOpen : (w.after calls).IsOpen n
    · right
      rcases registered : (w.after calls).registered with _ | m
      · have opened := (isOpen_after_iff (shut n) calls).1 isOpen
        obtain ⟨m, last⟩ := Option.isSome_iff_exists.1 (isSome_lastOpened opened)
        refine .inr ⟨isOpen, rfl, m, last, fun still => ?_⟩
        cases registered.symm.trans ((registered_after_iff unrouted calls).2 ⟨last, still⟩)
      · refine .inl ⟨m, ?_, rfl⟩
        rintro rfl
        exact other registered
    · exact .inl isOpen
  · rintro (closed | ⟨m, apart, registered⟩ | ⟨-, nowhere, -⟩) here
    · exact closed ((registered_after_iff unrouted calls).1 here).2
    · exact apart (Option.some.inj (registered.symm.trans here))
    · cases nowhere.symm.trans here

end World

namespace Call

variable {w : World} {c : Call} {n : Nat}

/-- Token keys are not routed through a provider before it is made ready. -/
theorem registered_ne_next (unrouted : w.registered ≠ some n) (other : c ≠ setUp n) :
    (c.next w).registered ≠ some n := by
  rw [(c.moves w).registered_eq]
  intro routed
  rcases transition : c.transition? w with _ | m | m
  · rw [transition] at routed
    exact unrouted routed
  · rw [transition, World.routing_opened] at routed
    rw [routed] at transition
    exact other (eq_setUp_of_opened transition)
  · rw [transition, World.routing_closed] at routed
    exact unrouted routed.1

/-- A provider in session stays so until it is shut down. -/
theorem isOpen_next (isOpen : w.IsOpen n) (other : c ≠ shutDown n) : (c.next w).IsOpen n := by
  rw [(c.moves w).isOpen_iff n]
  refine .inr ⟨isOpen, ?_⟩
  intro closed
  exact other (eq_shutDown_of_closed closed)

end Call

namespace World

variable {w : World} {n : Nat}

/-- A provider that is not registered and never set up is not registered afterwards. -/
theorem registered_ne_after (calls : List Call) (unrouted : w.registered ≠ some n)
    (never : .setUp n ∉ calls) : (w.after calls).registered ≠ some n := by
  apply after_of_next (P := fun v => v.registered ≠ some n) _ unrouted
  intro c m v unrouted
  exact Call.registered_ne_next unrouted (ne_of_mem_of_not_mem m never)

/-- A token that is open and never shut down is open afterwards. -/
theorem isOpen_after (calls : List Call) (isOpen : w.IsOpen n) (never : .shutDown n ∉ calls) :
    (w.after calls).IsOpen n := by
  apply after_of_next (P := fun v => v.IsOpen n) _ isOpen
  intro c m v isOpen
  exact Call.isOpen_next isOpen (ne_of_mem_of_not_mem m never)

end World

/-! ## Sessions as histories -/

/-- A session of a provider, with a block that does what calls do, does what calls do. -/
theorem Provider.session_after {α : Type} {p : Provider} {n : Nat} {block : Run α} {inner : List Call}
    {w : World} (ready : (setUp n w).1 = .ok ())
    (calls : (block (w.after [.setUp n])).2 = w.after (.setUp n :: inner)) :
    ((p.source n).session block w).2 = w.after (.setUp n :: inner ++ [.shutDown n]) := by
  rcases start : setUp n w with ⟨o, v⟩
  obtain rfl : o = .ok () := by simpa [start] using ready
  have began : w.after [.setUp n] = v := congrArg Prod.snd start
  change ((setUp n >>= fun _ => always block (shutDown n)) w).2 = _
  rw [bind_of_ok start, World.after_append, ← calls, began]
  change _ = (shutDown n (block v).2).2
  unfold always
  rcases block v with ⟨o, v'⟩
  dsimp only
  rcases shutDown n v' with ⟨_ | _, _⟩
  · rfl
  · rfl

/-- A session of another provider leaves token keys not routed through a provider, and the provider in
session if it was, whatever is called in its block except for making the provider ready or shutting it
down. -/
theorem Provider.unrouted_after_session {α : Type} {block : Run α} {inner : List Call} {w : World}
    {n m : Nat} {e : Engine} (apart : m ≠ n) (here : w.providers[m]? = some (.token e))
    {tool : String} (ready : readiness e w.files w.environment = .ok tool)
    (calls : (block (w.after [.setUp m])).2 = w.after (.setUp m :: inner)) (never : .setUp n ∉ inner) :
    let v := ((source (.token e) m).session block w).2
    v = w.after (.setUp m :: inner ++ [.shutDown m]) ∧ v.registered ≠ some n ∧
      (w.IsOpen n → .shutDown n ∉ inner → v.IsOpen n) := by
  intro v
  obtain ⟨w', ran, -, routed⟩ := setUp_of_ready here ready
  have same : v = w.after (.setUp m :: inner ++ [.shutDown m]) :=
    session_after (congrArg Prod.fst ran) calls
  have began : (Call.setUp m).next w = w' := congrArg Prod.snd ran
  refine ⟨same, ?_, fun isOpen kept => ?_⟩
  · rw [same, List.cons_append, World.after_cons, began]
    refine World.registered_ne_after _ ?_ (by simpa using never)
    rw [routed]
    exact fun through => apart (Option.some.inj through)
  · rw [same]
    exact World.isOpen_after _ isOpen (by simpa [apart.symm] using kept)

/-! ## Refused keys -/

namespace SigningKey

/-- Whether a key is refused as used outside of its provider's session. -/
def IsRefused (key : SigningKey) (f : HashFunction) (message : Bytes) (w : World) : Prop :=
  ∃ attributes provider,
    (key.sign f message w).1 = .error (.failure (.key (.outsideSession attributes provider)))

/-- In sound surroundings, a key of a token is refused exactly if its provider is not registered. -/
theorem isRefused_onToken_iff {w : World} (routes : ∀ n, w.registered = some n → w.IsOpen n) (n : Nat)
    (attributes : KeyReference.Attributes) (algorithm : String) (f : HashFunction) (message : Bytes) :
    (onToken n attributes algorithm).IsRefused f message w ↔ w.registered ≠ some n := by
  constructor
  · rintro ⟨_, _, refused⟩
    obtain ⟨m, _, _, same, other, -⟩ := (sign_eq_key_iff routes _ f message _).1 refused
    cases same
    exact other
  · intro other
    exact ⟨_, _, (sign_eq_key_iff routes _ f message _).2 ⟨n, attributes, algorithm, rfl, other, rfl⟩⟩

/-- **When a token key is refused.** After any calls on any providers, a token key is refused exactly if
its provider is not in session, or token keys are routed through another, or its provider is in session,
token keys are routed nowhere, and the provider that was made ready last was shut down since. So a session
of another provider, whatever is called in its block, leaves the key refused, though its own provider is
still in session, unless that is made ready again. -/
theorem refused_after (files : FileSystem) (environment : List (String × String))
    (respond : Nat → Nat → ToolRequest → ToolOutcome) (calls : List Call) (n : Nat)
    (attributes : KeyReference.Attributes) (algorithm : String) (f : HashFunction) (message : Bytes) :
    let start := World.initial files environment respond
    let w := start.after calls
    let history := start.transitions calls
    let key := onToken n attributes algorithm
    (key.IsRefused f message w ↔ ¬ w.IsOpen n ∨ (∃ m, m ≠ n ∧ w.registered = some m) ∨
      (w.IsOpen n ∧ w.registered = none ∧ ∃ m, lastOpened history = some m ∧ ¬ w.IsOpen m)) ∧
    (∀ m, w.IsOpen m ↔ lastOf m history = some (.opened m)) ∧
    (∀ m, w.registered = some m ↔ lastOpened history = some m ∧ w.IsOpen m) ∧
    ∀ (α : Type) (block : Run α) (inner : List Call) (m : Nat) (e : Engine) (tool : String),
      m ≠ n → w.providers[m]? = some (.token e) →
      Provider.readiness e w.files w.environment = .ok tool →
      (block (w.after [.setUp m])).2 = w.after (.setUp m :: inner) → .setUp n ∉ inner →
      let v := (((Provider.token e).source m).session block w).2
      key.IsRefused f message v ∧ (w.IsOpen n → .shutDown n ∉ inner → v.IsOpen n) := by
  intro start w history key
  have sound : w.IsSound := (World.isSound_initial files environment respond).after calls
  have noneOpen (m : Nat) : ¬ start.IsOpen m := by
    simp [start, World.IsOpen, World.initial]
  refine ⟨?_, fun m => World.isOpen_after_iff (noneOpen m) calls,
    fun m => World.registered_after_iff rfl calls, ?_⟩
  · rw [isRefused_onToken_iff sound.registered]
    exact World.registered_ne_after_iff noneOpen rfl calls
  · intro α block inner m e tool apart here ready inside never v
    obtain ⟨same, unrouted, kept⟩ := Provider.unrouted_after_session apart here ready inside never
    have sound' : v.IsSound := by
      change (((Provider.token e).source m).session block w).2.IsSound
      rw [same]
      exact sound.after _
    exact ⟨(isRefused_onToken_iff sound'.registered _ _ _ _ _).2 unrouted, kept⟩

/-- A session of the second of two engines in the first one's: the first engine is still in session, and
its key is refused. -/
theorem refused_after_innerSession :
    let start := World.initial signingTool [] (fun _ _ _ => ⟨0, [], some [1]⟩)
    let outer : List Call := [.create (some "pkcs11") [("tool", .text "./t")],
      .create (some "pkcs11") [("tool", .text "./t")], .setUp 0]
    let inner := [.setUp 1, .shutDown 1]
    let engine : Engine := ⟨none, none, "./t", none⟩
    let key := onToken 0 [("object", "k")] "RSA"
    let block : Run Unit := pure ()
    let v := (((Provider.token engine).source 1).session block (start.after outer)).2
    (key.IsRefused .sha256 [7] v ∧ v.IsOpen 0) ∧
    (start.after (outer ++ inner)).registered = none ∧
    key.IsRefused .sha256 [7] (start.after (outer ++ inner)) := by
  intro start outer inner engine key block v
  have session := (refused_after signingTool [] (fun _ _ _ => ⟨0, [], some [1]⟩) outer 0 [("object", "k")]
    "RSA" .sha256 [7]).2.2.2 Unit block [] 1 engine "./t" (by decide) (by decide +kernel)
    (by decide +kernel) rfl List.not_mem_nil
  obtain ⟨refused, -⟩ := refused_after signingTool [] (fun _ _ _ => ⟨0, [], some [1]⟩)
    (outer ++ inner) 0 [("object", "k")] "RSA" .sha256 [7]
  have unrouted : (start.after (outer ++ inner)).registered = none := by decide +kernel
  have here : (start.after (outer ++ inner)).IsOpen 0 := by decide +kernel
  have last : lastOpened (start.transitions (outer ++ inner)) = some 1 := by decide +kernel
  have ended : ¬ (start.after (outer ++ inner)).IsOpen 1 := by decide +kernel
  exact ⟨⟨session.1, session.2 (by decide +kernel) List.not_mem_nil⟩, unrouted,
    refused.2 (.inr (.inr ⟨here, unrouted, 1, last, ended⟩))⟩

end SigningKey

end ImageSigning
