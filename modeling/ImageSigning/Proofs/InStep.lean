import ImageSigning.Proofs.Signing.Stages

/-!
# Two runs in step

What a run does not depend on is said of two runs: started in surroundings that are alike, they end alike
and leave surroundings that are alike. What "alike" means is up to a relation on surroundings, one on
faults and one on results, so that one set of rules serves every such statement. The rules follow the ways
in which runs are put together: a sequence is in step if its first step is and the rest is for all results
that are alike.

* **`Agree`** — outcomes that are alike.
* **`Run.InStep`** — runs that end alike and leave surroundings that are alike.
* **`Run.InStep.bind`**, **`Run.inStep_get_bind`**, **`Run.InStep.always`**, **`Run.inStep_tryCatch`** — the
  rules.
* **`KeySource.inStep_session`** — sessions whose parts are in step.
* **`Configuration.inStep_sign`** — runs that ask for identities that are alike, and use them in step.
-/

namespace ImageSigning

/-- Outcomes that are alike: both are results, or both are faults. -/
inductive Agree {ε α β : Type} (F : ε → ε → Prop) (Q : α → β → Prop) : Except ε α → Except ε β → Prop
  | ok {a : α} {b : β} (h : Q a b) : Agree F Q (.ok a) (.ok b)
  | error {e e' : ε} (h : F e e') : Agree F Q (.error e) (.error e')

namespace Agree

variable {ε δ α β : Type} {F : ε → ε → Prop} {Q : α → β → Prop}

/-- An outcome agrees with itself. -/
theorem refl [Std.Refl F] (o : Except ε α) : Agree F Eq o o := by
  cases o with
  | ok a => exact .ok rfl
  | error e => exact .error (Std.Refl.refl e)

/-- Outcomes with the same faults and the same results are the same. -/
theorem eq {o o' : Except ε α} (h : Agree Eq Eq o o') : o' = o := by
  cases h with
  | ok same => rw [same]
  | error same => rw [same]

/-- Outcomes agree with their faults reworded, if the words do. -/
theorem mapError {G : δ → δ → Prop} {o : Except ε α} {o' : Except ε β} (h : Agree F Q o o')
    (f : ε → δ) (words : ∀ e e', F e e' → G (f e) (f e')) :
    Agree G Q (o.mapError f) (o'.mapError f) := by
  cases h with
  | ok same => exact .ok same
  | error same => exact .error (words _ _ same)

end Agree

namespace Run

/-- Runs that, from surroundings that are alike, end alike and leave surroundings that are alike. -/
structure InStep {α β : Type} (R : World → World → Prop) (F : Fault → Fault → Prop) (Q : α → β → Prop)
    (x : Run α) (y : Run β) : Prop where
  step : ∀ w w', R w w' → Agree F Q (x w).1 (y w').1 ∧ R (x w).2 (y w').2

variable {α β γ δ : Type} {R : World → World → Prop} {F : Fault → Fault → Prop}
  {P : α → β → Prop} {Q : γ → δ → Prop} {x : Run α} {y : Run β}

/-- Results in step are runs in step. -/
theorem inStep_pure {a : α} {b : β} (h : P a b) : InStep R F P (pure a) (pure b) :=
  ⟨fun _ _ alike => ⟨.ok h, alike⟩⟩

/-- Faults in step are runs in step. -/
theorem inStep_throw {e e' : Fault} (h : F e e') : InStep R F P (throw e) (throw e') :=
  ⟨fun _ _ alike => ⟨.error h, alike⟩⟩

/-- A sequence is in step if its first step is, and the rest is for all results that are alike. -/
theorem InStep.bind {f : α → Run γ} {g : β → Run δ} (first : InStep R F P x y)
    (rest : ∀ a b, P a b → InStep R F Q (f a) (g b)) : InStep R F Q (x >>= f) (y >>= g) := by
  refine ⟨fun w w' alike => ?_⟩
  obtain ⟨ended, alike⟩ := first.step w w' alike
  rcases ran : x w with ⟨o, v⟩
  rcases ran' : y w' with ⟨o', v'⟩
  rw [ran, ran'] at ended alike
  cases ended with
  | ok same =>
    rw [bind_of_ok ran, bind_of_ok ran']
    exact (rest _ _ same).step v v' alike
  | error same =>
    rw [bind_of_error ran, bind_of_error ran']
    exact ⟨.error same, alike⟩

/-- A first step with one result for both runs. -/
theorem InStep.seq {x y : Run α} {f : α → Run γ} {g : α → Run δ} (first : InStep R F Eq x y)
    (rest : ∀ a, InStep R F Q (f a) (g a)) : InStep R F Q (x >>= f) (y >>= g) :=
  first.bind fun a _ same => same ▸ rest a

/-- A run that looks at its surroundings is in step if it is for all that are alike. -/
theorem inStep_get_bind {f : World → Run γ} {g : World → Run δ}
    (h : ∀ w w', R w w' → InStep R F Q (f w) (g w')) : InStep R F Q (get >>= f) (get >>= g) :=
  ⟨fun w w' alike => (h w w' alike).step w w' alike⟩

/-- Changes that keep surroundings related are in step. -/
theorem inStep_modify {f g : World → World} (h : ∀ w w', R w w' → R (f w) (g w')) :
    InStep R F Eq (modify f : Run PUnit) (modify g) :=
  ⟨fun w w' alike => ⟨.ok rfl, h w w' alike⟩⟩

/-- Putting related surroundings in place is in step. -/
theorem inStep_set {w w' : World} (h : R w w') : InStep R F Eq (set w : Run PUnit) (set w') :=
  ⟨fun _ _ _ => ⟨.ok rfl, h⟩⟩

/-- A choice made alike is in step if its branches are. -/
theorem InStep.ite {p : Prop} [Decidable p] {x' : Run α} {y' : Run β} (hx : InStep R F P x y)
    (hy : InStep R F P x' y') : InStep R F P (if p then x else x') (if p then y else y') := by
  split
  · exact hx
  · exact hy

/-- Outcomes that agree are in step once they are lifted. -/
theorem inStep_lift {ε : Type} {fault fault' : ε → Fault} {r : Except ε α} {r' : Except ε β}
    (h : Agree F P (r.mapError fault) (r'.mapError fault')) :
    InStep R F P (lift fault r) (lift fault' r') := by
  refine ⟨fun w w' alike => ?_⟩
  rw [lift_eq, lift_eq]
  exact ⟨h, alike⟩

section
variable [Std.Refl F]

/-- A failure is in step with itself. -/
theorem inStep_fail (f : Failure) : InStep R F P (fail f) (fail f) := inStep_throw (Std.Refl.refl _)

/-- A defect is in step with itself. -/
theorem inStep_defect (d : Defect) : InStep R F P (defect d) (defect d) :=
  inStep_throw (Std.Refl.refl _)

/-- An outcome that does not depend on the surroundings. -/
theorem inStep_lift_self {ε : Type} (fault : ε → Fault) (r : Except ε α) :
    InStep R F Eq (lift fault r) (lift fault r) := inStep_lift (Agree.refl _)

/-- Taking a text out of a setting goes alike. -/
theorem inStep_text (v : Value) : InStep R F Eq (text v) (text v) := by
  cases v with
  | text s => exact inStep_pure rfl
  | _ => exact inStep_defect _

/-- Behind the same fault nothing is run on either side. -/
theorem inStep_throw_bind (e : Fault) (f : α → Run γ) (g : β → Run δ) :
    InStep R F Q ((throw e : Run α) >>= f) ((throw e : Run β) >>= g) :=
  ⟨fun _ _ alike => ⟨.error (Std.Refl.refl e), alike⟩⟩

/-- Checks that can only end both runs alike are in step if what follows them is. -/
theorem InStep.throwUnless {p : Prop} [Decidable p] {e : Fault} {f : α → Run γ} {g : β → Run δ}
    {x : Run γ} {y : Run δ} (h : InStep R F Q x y) :
    InStep R F Q (if p then (throw e : Run α) >>= f else x) (if p then (throw e : Run β) >>= g else y) :=
  InStep.ite (inStep_throw_bind e f g) h

end

/-- Runs that both may tell an event first are in step if telling it and what follows are. -/
theorem InStep.tellIf {p : Prop} [Decidable p] {e : Event} {k : Unit → Run γ} {k' : Unit → Run δ}
    (told : InStep R F Eq (tell e) (tell e)) (h : InStep R F Q (k ()) (k' ())) :
    InStep R F Q (if p then tell e >>= k else k ()) (if p then tell e >>= k' else k' ()) :=
  InStep.ite (told.seq fun _ => h) h

/-- Runs stay in step in other words if these make equal faults of faults that agree. -/
theorem inStep_tryCatch (h : InStep R F P x y) (g : Fault → Fault)
    (words : ∀ e e', F e e' → F (g e) (g e')) :
    InStep R F P (tryCatch x fun e => throw (g e)) (tryCatch y fun e => throw (g e)) := by
  refine ⟨fun w w' alike => ?_⟩
  obtain ⟨ended, alike⟩ := h.step w w' alike
  rw [tryCatch_throw, tryCatch_throw]
  exact ⟨ended.mapError g words, alike⟩

/-- A block in step, with what has to happen at its end in step. -/
theorem InStep.always {finish finish' : Run Unit} (h : InStep R F P x y)
    (ends : InStep R F Eq finish finish') : InStep R F P (always x finish) (always y finish') := by
  refine ⟨fun w w' alike => ?_⟩
  obtain ⟨ended, alike⟩ := h.step w w' alike
  rcases ran : x w with ⟨o, v⟩
  rcases ran' : y w' with ⟨o', v'⟩
  rw [ran, ran'] at ended alike
  obtain ⟨finished, left⟩ := ends.step v v' alike
  rcases done : finish v with ⟨f, u⟩
  rcases done' : finish' v' with ⟨f', u'⟩
  rw [done, done'] at finished left
  cases finished with
  | ok same =>
    have passed : Run.always x finish w = (o, u) := by simp [Run.always, ran, done]
    have passed' : Run.always y finish' w' = (o', u') := by simp [Run.always, ran', done']
    rw [passed, passed']
    exact ⟨ended, left⟩
  | @error e e' same =>
    have stopped : Run.always x finish w = (.error e, u) := by simp [Run.always, ran, done]
    have stopped' : Run.always y finish' w' = (.error e', u') := by simp [Run.always, ran', done']
    rw [stopped, stopped']
    exact ⟨.error same, left⟩

end Run

/-! ## Sessions and runs -/

section
variable {α β : Type} {R : World → World → Prop} {F : Fault → Fault → Prop} {P : α → β → Prop}

/-- Sessions are in step if their parts are. -/
theorem KeySource.inStep_session {s s' : KeySource} {x : Run α} {y : Run β}
    (setUp : Run.InStep R F Eq s.setUp s'.setUp) (block : Run.InStep R F P x y)
    (shutDown : Run.InStep R F Eq s.shutDown s'.shutDown) :
    Run.InStep R F P (s.session x) (s'.session y) :=
  setUp.bind fun _ _ _ => block.always shutDown

/-- Whether two sources of keys are the same one, of a provider that was made. -/
def Provider.AreOne (s s' : KeySource) : Prop := s = s' ∧ ∃ (x : Provider) (n : Nat), s = x.source n

/-- Runs that check and load the same, ask for identities that are alike, and use them in step. -/
theorem Configuration.inStep_sign [Std.Refl F] {S : IdentityRequest → IdentityRequest → Prop}
    {c c' : Configuration} (validate : c'.validate = c.validate)
    (algorithm : c'.digestAlgorithm = c.digestAlgorithm) (result : c'.result = c.result)
    (tells : ∀ e, Run.InStep R F Eq (Run.tell e) (Run.tell e))
    (load : Run.InStep R F Eq (Image.load (c.get .image).display) (Image.load (c'.get .image).display))
    (asked : Agree F S c.identityRequest c'.identityRequest)
    (used : ∀ r r' image a, S r r' → Run.InStep R F Eq (Identity.use r (c.body image a))
      (Identity.use r' (c'.body image a))) : Run.InStep R F Eq c.sign c'.sign := by
  have prepared : Run.InStep R F (fun found found' => found.1 = found'.1 ∧ found.2.1 = found'.2.1 ∧
      S found.2.2 found'.2.2) c.prepare c'.prepare := by
    unfold prepare
    rw [validate, algorithm]
    refine Run.InStep.seq (Run.inStep_lift_self _ _) fun _ => ?_
    refine Run.InStep.seq (Run.inStep_lift_self _ _) fun a => Run.InStep.seq load fun image => ?_
    refine Run.InStep.tellIf (tells _) ?_
    refine (Run.inStep_lift (asked.mapError id fun _ _ => id)).bind fun r r' same => ?_
    exact Run.inStep_pure ⟨rfl, rfl, same⟩
  rw [sign_eq, sign_eq, result]
  refine prepared.bind fun (a, image, r) (a', image', r') same => ?_
  obtain ⟨rfl, rfl, same⟩ := same
  exact Run.InStep.seq (used r r' _ _ same) fun made => Run.inStep_pure rfl

end

end ImageSigning
