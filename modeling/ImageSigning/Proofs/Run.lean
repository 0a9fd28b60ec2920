import ImageSigning.Proofs.Outcome
import ImageSigning.Provider

/-!
# Runs that end with a result

A run that ends with a result went through each of its steps with a result. The lemmas below take a
run apart at its steps: a sequence at its first step, a lifted outcome, an event that is told, and the
block of a session between making a provider ready and shutting it down.

* **`bind_cases`**, **`bind_eq_ok`** — a sequence ends at its first step or goes on from there; it
  succeeds exactly if its first step succeeds and the rest does.
* **`session_eq_ok`** — a session succeeds exactly if provider, block and shutting down do.
* **`shutDown_files`** — shutting a provider down leaves the files alone.
* **`Gives`** — runs whose outcome depends on the files alone, and that leave the files alone.
-/

namespace ImageSigning

namespace Run

variable {α β : Type} {w w' : World}

/-- Behind a part that succeeds the next one is run where it ended. -/
theorem bind_of_ok {x : Run α} {f : α → Run β} {a : α} (h : x w = (.ok a, w')) :
    (x >>= f) w = f a w' := by
  change (ExceptT.bindCont f (x w).1 : StateM World (Except Fault β)) (x w).2 = _
  rw [h]
  rfl

/-- Behind a part that fails nothing is run. -/
theorem bind_of_error {x : Run α} {f : α → Run β} {e : Fault} (h : x w = (.error e, w')) :
    (x >>= f) w = (.error e, w') := by
  change (ExceptT.bindCont f (x w).1 : StateM World (Except Fault β)) (x w).2 = _
  rw [h]
  rfl

/-- A sequence ends at its first step, or goes on from there. -/
theorem bind_cases {x : Run α} {f : α → Run β} {o : Except Fault β} (h : (x >>= f) w = (o, w')) :
    (∃ e, o = .error e ∧ x w = (.error e, w')) ∨ ∃ a w₁, x w = (.ok a, w₁) ∧ f a w₁ = (o, w') := by
  rcases first : x w with ⟨e | a, w₁⟩
  · rw [bind_of_error first] at h
    obtain ⟨rfl, rfl⟩ := Prod.mk.inj h
    exact .inl ⟨e, rfl, rfl⟩
  · rw [bind_of_ok first] at h
    exact .inr ⟨a, w₁, rfl, h⟩

/-- A sequence succeeds exactly if its first step succeeds and the rest does from there. -/
theorem bind_eq_ok {x : Run α} {f : α → Run β} {b : β} :
    (x >>= f) w = (.ok b, w') ↔ ∃ a w₁, x w = (.ok a, w₁) ∧ f a w₁ = (.ok b, w') := by
  constructor
  · intro h
    rcases bind_cases h with ⟨e, here, -⟩ | found
    · cases here
    · exact found
  · rintro ⟨a, w₁, first, h⟩
    rw [bind_of_ok first, h]

/-- A result is itself and changes nothing. -/
theorem pure_eq_ok {a b : α} : (pure a : Run α) w = (.ok b, w') ↔ a = b ∧ w = w' := by
  change ((Except.ok a : Except Fault α), w) = _ ↔ _
  simp

/-- Looking at the surroundings gives them and changes nothing. -/
theorem get_eq_ok {v : World} : (get : Run World) w = (.ok v, w') ↔ w = v ∧ w = w' := by
  change ((Except.ok w : Except Fault World), w) = _ ↔ _
  simp

/-- A change succeeds and changes just that. -/
theorem modify_eq_ok {f : World → World} {u : PUnit} :
    (modify f : Run PUnit) w = (.ok u, w') ↔ f w = w' := by
  change ((Except.ok ⟨⟩ : Except Fault PUnit), f w) = _ ↔ _
  simp

/-- Telling an event writes it down. -/
theorem tell_eq (e : Event) (w : World) : tell e w = (.ok (), w.tell e) := rfl

/-- A loop that tells one event for each member of a list. -/
theorem forIn_tell_eq {ι : Type} (l : List ι) (e : ι → Event) (w : World) :
    (forIn l PUnit.unit fun i _ => do
      tell (e i)
      pure (ForInStep.yield PUnit.unit) : Run PUnit) w
      = (.ok PUnit.unit, { w with journal := w.journal ++ l.map e }) := by
  induction l generalizing w with
  | nil =>
    rw [List.map_nil, List.append_nil]
    rfl
  | cons i l ih =>
    rw [List.forIn_cons]
    change (forIn l PUnit.unit _ : Run PUnit) (w.tell (e i)) = _
    rw [ih]
    simp [World.tell]

/-- Telling an event does nothing but tell it. -/
theorem tell_eq_ok {e : Event} {u : Unit} : tell e w = (.ok u, w') ↔ w.tell e = w' :=
  modify_eq_ok

/-- A fault is no success. -/
theorem not_throw_eq_ok {f : Fault} {a : α} : ¬ (throw f : Run α) w = (.ok a, w') := by
  change ¬ ((Except.error f : Except Fault α), w) = _
  simp

/-- A failure is no success. -/
theorem not_fail_eq_ok {f : Failure} {a : α} : ¬ (fail f : Run α) w = (.ok a, w') :=
  not_throw_eq_ok

/-- A defect is no success. -/
theorem not_defect_eq_ok {d : Defect} {a : α} : ¬ (defect d : Run α) w = (.ok a, w') :=
  not_throw_eq_ok

/-- Lifting gives the outcome with its problem as a fault, and changes nothing. -/
theorem lift_eq {ε : Type} (fault : ε → Fault) (r : Except ε α) :
    lift fault r w = (r.mapError fault, w) := by
  cases r <;> rfl

/-- A lifted outcome succeeds exactly if the outcome does, and changes nothing. -/
theorem lift_eq_ok {ε : Type} {fault : ε → Fault} {r : Except ε α} {a : α} :
    lift fault r w = (.ok a, w') ↔ r = .ok a ∧ w = w' := by
  cases r with
  | ok b => simpa [lift] using pure_eq_ok
  | error e => simpa [lift] using not_throw_eq_ok

/-- A setting gives a text exactly if it is that text. -/
theorem text_eq_ok {v : Value} {s : String} : text v w = (.ok s, w') ↔ v = .text s ∧ w = w' := by
  cases v <;> simp [text, pure_eq_ok, not_defect_eq_ok]

/-- What follows a text is run on it. -/
theorem text_bind (s : String) (f : String → Run β) : text (.text s) >>= f = f s := rfl

/-- A certificate's subject is named exactly if its name can be shown. -/
theorem subject_eq_ok {c : Certificate} {s : String} :
    subject c w = (.ok s, w') ↔ c.subject.show = .ok s ∧ w = w' := lift_eq_ok

/-- A check that can only end a run: what goes on did not meet the condition. -/
theorem guard_eq_ok {p : Prop} [Decidable p] {x y : Run α} {a : α}
    (ends : ¬ x w = (.ok a, w')) :
    (if p then x else y) w = (.ok a, w') ↔ ¬ p ∧ y w = (.ok a, w') := by
  by_cases holds : p
  · rw [if_pos holds]
    exact ⟨fun h => (ends h).elim, fun h => (h.1 holds).elim⟩
  · rw [if_neg holds]
    exact ⟨fun h => ⟨holds, h⟩, fun h => h.2⟩

/-- A guard that may fail is passed exactly if its condition is not met. -/
theorem failUnless_eq_ok {p : Prop} [Decidable p] {f : Failure} {k : α → Run β} {y : Run β}
    {b : β} : (if p then (fail f : Run α) >>= k else y) w = (.ok b, w') ↔
      ¬ p ∧ y w = (.ok b, w') := by
  apply guard_eq_ok
  intro h
  obtain ⟨_, _, failed, -⟩ := bind_eq_ok.1 h
  exact not_fail_eq_ok failed

/-- A guard that may end with a defect is passed exactly if its condition is not met. -/
theorem defectUnless_eq_ok {p : Prop} [Decidable p] {d : Defect} {k : α → Run β} {y : Run β}
    {b : β} : (if p then (defect d : Run α) >>= k else y) w = (.ok b, w') ↔
      ¬ p ∧ y w = (.ok b, w') := by
  apply guard_eq_ok
  intro h
  obtain ⟨_, _, failed, -⟩ := bind_eq_ok.1 h
  exact not_defect_eq_ok failed

/-- An event is told or not, and the run goes on. -/
theorem tellIf_cases {p : Prop} [Decidable p] {e : Event} {k : Unit → Run β}
    {o : Except Fault β} (h : (if p then tell e >>= k else k ()) w = (o, w')) :
    ∃ v, (v = w ∨ v = w.tell e) ∧ k () v = (o, w') := by
  split at h
  · rw [bind_of_ok (tell_eq e w)] at h
    exact ⟨w.tell e, .inr rfl, h⟩
  · exact ⟨w, .inl rfl, h⟩

/-- What follows goes on from the same files. -/
theorem tellIf_eq_ok {p : Prop} [Decidable p] {e : Event} {k : Unit → Run β} {b : β}
    (h : (if p then tell e >>= k else k ()) w = (.ok b, w')) :
    ∃ v, v.files = w.files ∧ k () v = (.ok b, w') := by
  obtain ⟨v, told, rest⟩ := tellIf_cases h
  rcases told with rfl | rfl
  · exact ⟨v, rfl, rest⟩
  · exact ⟨w.tell e, rfl, rest⟩

/-- A block whose faults are reworded does what it does, and ends with other words. -/
theorem tryCatch_throw (x : Run α) (g : Fault → Fault) (w : World) :
    (tryCatch x fun e => throw (g e)) w = ((x w).1.mapError g, (x w).2) := by
  change (ExceptT.tryCatch x _ : Run α) w = _
  rcases ran : x w with ⟨e | b, w₁⟩
  · simp [ExceptT.tryCatch, ExceptT.mk, bind, StateT.bind, ran]
    rfl
  · simp [ExceptT.tryCatch, ExceptT.mk, bind, StateT.bind, ran]
    rfl

/-- A block whose faults are reworded succeeds exactly if the block does. -/
theorem tryCatch_throw_eq_ok {x : Run α} {g : Fault → Fault} {a : α} :
    (tryCatch x fun e => throw (g e)) w = (.ok a, w') ↔ x w = (.ok a, w') := by
  rw [tryCatch_throw, Prod.mk.injEq, Outcome.mapError_eq_ok, ← Prod.mk.injEq]
  exact Iff.rfl

/-- A block with a part that is run in any case succeeds exactly if both do. -/
theorem always_eq_ok {block : Run α} {finish : Run Unit} {a : α} :
    always block finish w = (.ok a, w') ↔
      ∃ w₁, block w = (.ok a, w₁) ∧ finish w₁ = (.ok (), w') := by
  rcases ran : block w with ⟨outcome, w₁⟩
  rcases ended : finish w₁ with ⟨e | u, w₂⟩
  · have stopped : always block finish w = (.error e, w₂) := by simp [always, ran, ended]
    rw [stopped]
    constructor
    · intro h
      cases h
    · rintro ⟨v, here, h⟩
      obtain ⟨-, rfl⟩ := Prod.mk.inj here
      rw [ended] at h
      cases h
  · have passed : always block finish w = (outcome, w₂) := by simp [always, ran, ended]
    rw [passed]
    constructor
    · intro h
      obtain ⟨rfl, rfl⟩ := Prod.mk.inj h
      exact ⟨w₁, rfl, ended⟩
    · rintro ⟨v, here, h⟩
      obtain ⟨rfl, rfl⟩ := Prod.mk.inj here
      rw [ended] at h
      obtain ⟨-, rfl⟩ := Prod.mk.inj h
      rfl

end Run

section
variable {α : Type} {w w' : World}

/-- Telling an event leaves the files. -/
@[simp] theorem World.tell_files (w : World) (e : Event) : (w.tell e).files = w.files := rfl

/-- A session succeeds exactly if provider, block and shutting down do. -/
theorem KeySource.session_eq_ok {s : KeySource} {block : Run α} {a : α} :
    s.session block w = (.ok a, w') ↔
      ∃ w₁ w₂, s.setUp w = (.ok (), w₁) ∧ block w₁ = (.ok a, w₂) ∧ s.shutDown w₂ = (.ok (), w') := by
  unfold KeySource.session
  simp only [Run.bind_eq_ok, Run.always_eq_ok]
  constructor
  · rintro ⟨⟨⟩, w₁, ready, w₂, ran, ended⟩
    exact ⟨w₁, w₂, ready, ran, ended⟩
  · rintro ⟨w₁, w₂, ready, ran, ended⟩
    exact ⟨⟨⟩, w₁, ready, w₂, ran, ended⟩

/-- Shutting a provider down leaves the files alone. -/
theorem Provider.shutDown_files {n : Nat} (h : Provider.shutDown n w = (.ok (), w')) :
    w'.files = w.files := by
  unfold Provider.shutDown at h
  obtain ⟨v, w₁, got, h⟩ := Run.bind_eq_ok.1 h
  obtain ⟨rfl, rfl⟩ := Run.get_eq_ok.1 got
  rcases found : w.providers[n]? with _ | _ | e <;> simp only [found] at h
  · obtain ⟨-, rfl⟩ := Run.pure_eq_ok.1 h
    rfl
  · obtain ⟨-, rfl⟩ := Run.pure_eq_ok.1 h
    rfl
  · unfold shutDownEngine at h
    rcases session : e.session with _ | s <;> simp only [session] at h
    · obtain ⟨-, rfl⟩ := Run.pure_eq_ok.1 h
      rfl
    · obtain ⟨_, w₂, unregistered, h⟩ := Run.bind_eq_ok.1 h
      obtain ⟨_, w₃, closed, h⟩ := Run.bind_eq_ok.1 h
      obtain rfl := Run.modify_eq_ok.1 unregistered
      obtain rfl := Run.modify_eq_ok.1 closed
      obtain rfl := Run.tell_eq_ok.1 h
      simp only [World.tell_files, World.setProvider]
      split <;> rfl

end

namespace Run

/-! ## Runs whose outcome depends on the files alone -/

/-- Given these files, the run has this outcome and leaves the files alone, whatever else there is. -/
def Gives {α : Type} (files : FileSystem) (x : Run α) (r : Except Fault α) : Prop :=
  ∀ w : World, w.files = files → ∃ w', x w = (r, w') ∧ w'.files = files

variable {α β : Type} {files : FileSystem}

/-- A result is given by itself. -/
theorem gives_pure (a : α) : Gives files (pure a) (.ok a) := fun w h => ⟨w, rfl, h⟩

/-- A fault is given by itself. -/
theorem gives_throw (f : Fault) : Gives files (throw f : Run α) (.error f) :=
  fun w h => ⟨w, rfl, h⟩

/-- A lifted outcome is given with its problem as a fault. -/
theorem gives_lift {ε : Type} (fault : ε → Fault) (r : Except ε α) :
    Gives files (lift fault r) (r.mapError fault) := by
  cases r with
  | ok a => exact gives_pure a
  | error e => exact gives_throw (fault e)

/-- An outcome of faults is given as it is. -/
theorem gives_lift_id (x : Except Fault α) : Gives files (lift id x) x := by
  cases x with
  | ok a => exact gives_pure a
  | error f => exact gives_throw f

/-- Telling an event gives nothing to know. -/
theorem gives_tell (e : Event) : Gives files (tell e) (.ok ()) := fun w h => ⟨w.tell e, rfl, h⟩

/-- Two parts give, one after the other, what their outcomes make together. -/
theorem Gives.bind {x : Run α} {f : α → Run β} {r : Except Fault α} {g : α → Except Fault β}
    (first : Gives files x r) (rest : ∀ a, Gives files (f a) (g a)) :
    Gives files (x >>= f) (r >>= g) := by
  intro w h
  obtain ⟨w₁, ran, kept⟩ := first w h
  rcases r with e | a
  · exact ⟨w₁, bind_of_error ran, kept⟩
  · obtain ⟨w₂, ran', kept'⟩ := rest a w₁ kept
    exact ⟨w₂, by rw [bind_of_ok ran, ran']; rfl, kept'⟩

/-- Behind a result that is known the next part gives the outcome. -/
theorem Gives.seq {x : Run α} {f : α → Run β} {a : α} {r : Except Fault β}
    (first : Gives files x (.ok a)) (rest : Gives files (f a) r) : Gives files (x >>= f) r := by
  intro w h
  obtain ⟨w₁, ran, kept⟩ := first w h
  obtain ⟨w₂, ran', kept'⟩ := rest w₁ kept
  exact ⟨w₂, by rw [bind_of_ok ran, ran'], kept'⟩

/-- Behind a fault that is known no other part gives any. -/
theorem Gives.stop {x : Run α} {f : α → Run β} {e : Fault} (first : Gives files x (.error e)) :
    Gives files (x >>= f) (.error e) := by
  intro w h
  obtain ⟨w', ran, kept⟩ := first w h
  exact ⟨w', bind_of_error ran, kept⟩

/-- Looking at the surroundings shows the files. -/
theorem gives_files {f : World → Run α} {r : Except Fault α}
    (h : ∀ w : World, w.files = files → Gives files (f w) r) : Gives files (get >>= f) r := by
  intro w here
  obtain ⟨w', ran, kept⟩ := h w here w here
  exact ⟨w', by rw [bind_of_ok (get_eq_ok.2 ⟨rfl, rfl⟩), ran], kept⟩

/-- An event that is told or not makes no difference. -/
theorem gives_tellIf {p : Prop} [Decidable p] {e : Event} {k : Unit → Run β} {r : Except Fault β}
    (rest : Gives files (k ()) r) : Gives files (if p then tell e >>= k else k ()) r := by
  split
  · exact (gives_tell e).seq rest
  · exact rest

/-- A loop that tells events makes no difference. -/
theorem gives_tells {ι : Type} (l : List ι) (e : ι → Event) :
    Gives files (forIn l PUnit.unit fun i _ => do
      tell (e i)
      pure (ForInStep.yield PUnit.unit)) (.ok PUnit.unit) :=
  fun w h => ⟨_, forIn_tell_eq l e w, h⟩

/-- A run that succeeds gives its result, and the files stay. -/
theorem Gives.eq_ok {x : Run α} {r : Except Fault α} {w w' : World} {a : α}
    (h : Gives w.files x r) (ran : x w = (.ok a, w')) : r = .ok a ∧ w'.files = w.files := by
  obtain ⟨w₁, ran', kept⟩ := h w rfl
  rw [ran] at ran'
  obtain ⟨rfl, rfl⟩ := Prod.mk.inj ran'
  exact ⟨rfl, kept⟩

/-- A run that is known to succeed does. -/
theorem Gives.exists_ok {x : Run α} {w : World} {a : α} (h : Gives w.files x (.ok a)) :
    ∃ w', x w = (.ok a, w') := by
  obtain ⟨w', ran, -⟩ := h w rfl
  exact ⟨w', ran⟩

end Run

end ImageSigning
