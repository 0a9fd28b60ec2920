import ImageSigning.Proofs.Image.Acceptance
import ImageSigning.Signing

/-!
# Runs that blame no setting

A run can end with a problem of the configuration, or in another way. Most of what is done for a
signature never ends with such a problem: reading files, signing with a key, building a signature and
writing it out blame the files, the key and the image for what goes wrong, and no setting. What a long
run comes to is put together from its steps, each of which ends it or goes on.

* **`Run.EndsWith`** — runs that end with a fault.
* **`Run.AcceptsSettings`** — runs that never end with a problem of the configuration.
* **`Signature.acceptsSettings_build`**, **`Image.acceptsSettings_writeTo`** — building a signature and
  writing it are such runs.
-/

namespace ImageSigning

/-! ## Runs that end with a fault -/

namespace Run

variable {α β ε : Type} {x : Run α} {g : α → Run β} {f : Fault} {w : World}

/-- In these surroundings the run ends with the fault. -/
def EndsWith (x : Run α) (w : World) (f : Fault) : Prop := ∃ w', x w = (.error f, w')

/-- How a run ends is its first part. -/
theorem endsWith_iff : EndsWith x w f ↔ (x w).1 = .error f := by
  constructor
  · rintro ⟨w', ran⟩
    rw [ran]
  · intro ended
    exact ⟨(x w).2, Prod.ext ended rfl⟩

/-- A sequence ends with the fault of its first step or, where that goes on, of the rest. -/
theorem endsWith_bind : EndsWith (x >>= g) w f ↔
    EndsWith x w f ∨ ∃ a w₁, x w = (.ok a, w₁) ∧ EndsWith (g a) w₁ f := by
  constructor
  · rintro ⟨w', ran⟩
    rcases bind_cases ran with ⟨e, same, failed⟩ | ⟨a, w₁, went, ran⟩
    · obtain rfl := Except.error.inj same
      exact .inl ⟨w', failed⟩
    · exact .inr ⟨a, w₁, went, w', ran⟩
  · rintro (⟨w', failed⟩ | ⟨a, w₁, went, w', ran⟩)
    · exact ⟨w', bind_of_error failed⟩
    · exact ⟨w', (bind_of_ok went).trans ran⟩

/-- A fault that is thrown is how the run ends. -/
theorem endsWith_throw {e : Fault} : EndsWith (throw e : Run α) w f ↔ e = f := by
  constructor
  · rintro ⟨w', ran⟩
    exact Except.error.inj (Prod.mk.inj ran).1
  · rintro rfl
    exact ⟨w, rfl⟩

/-- A problem that is lifted ends the run with the fault that it stands for. -/
theorem endsWith_lift {fault : ε → Fault} {r : Except ε α} :
    EndsWith (lift fault r) w f ↔ ∃ e, r = .error e ∧ fault e = f := by
  rw [endsWith_iff, lift_eq, Outcome.mapError_eq_error]

/-- A block whose faults are reworded ends with the other words. -/
theorem endsWith_rethrow {h : Fault → Fault} :
    EndsWith (tryCatch x fun e => throw (h e)) w f ↔ ∃ e, EndsWith x w e ∧ h e = f := by
  simp only [endsWith_iff, tryCatch_throw, Outcome.mapError_eq_error]

/-- The run never ends with a problem of the configuration. -/
def AcceptsSettings (x : Run α) : Prop := ∀ w p, ¬ EndsWith x w (.failure (.configuration p))

/-- A result blames no setting. -/
theorem acceptsSettings_pure (a : α) : AcceptsSettings (pure a : Run α) := by
  rintro w p ⟨w', ran⟩
  cases ran

/-- Looking at the surroundings blames no setting. -/
theorem acceptsSettings_get : AcceptsSettings (get : Run World) := by
  rintro w p ⟨w', ran⟩
  cases ran

/-- Changing the surroundings blames no setting. -/
theorem acceptsSettings_modify (h : World → World) : AcceptsSettings (modify h : Run PUnit) := by
  rintro w p ⟨w', ran⟩
  cases ran

/-- Telling an event blames no setting. -/
theorem acceptsSettings_tell (e : Event) : AcceptsSettings (tell e) := acceptsSettings_modify _

/-- A defect is no problem of the configuration. -/
theorem acceptsSettings_defect (d : Defect) : AcceptsSettings (defect d : Run α) := by
  intro w p failed
  cases endsWith_throw.1 failed

/-- A failure of another kind blames no setting. -/
theorem acceptsSettings_fail {e : Failure} (other : ∀ p, e ≠ .configuration p) :
    AcceptsSettings (fail e : Run α) := by
  intro w p failed
  exact other p (Fault.failure.inj (endsWith_throw.1 failed))

/-- A lifted outcome blames no setting if none of its problems stands for one. -/
theorem acceptsSettings_lift {fault : ε → Fault} {r : Except ε α}
    (other : ∀ e p, r = .error e → fault e ≠ .failure (.configuration p)) :
    AcceptsSettings (lift fault r) := by
  intro w p failed
  obtain ⟨e, here, shown⟩ := endsWith_lift.1 failed
  exact other e p here shown

/-- An outcome whose faults are no problems of the configuration blames no setting. -/
theorem acceptsSettings_lift_id {r : Except Fault α}
    (other : ∀ p, r ≠ .error (.failure (.configuration p))) : AcceptsSettings (lift id r) := by
  refine acceptsSettings_lift fun e p failed shown => other p ?_
  rw [failed, ← shown]
  rfl

/-- A problem that is a defect is none of the configuration. -/
theorem acceptsSettings_lift_defect (d : ε → Defect) (r : Except ε α) :
    AcceptsSettings (lift (fun e => .defect (d e)) r) := by
  refine acceptsSettings_lift fun e p _ shown => ?_
  cases shown

/-- A setting that is no text is a defect, and not blamed. -/
theorem acceptsSettings_text (v : Value) : AcceptsSettings (text v) := by
  cases v with
  | text s => exact acceptsSettings_pure s
  | _ => exact acceptsSettings_defect _

/-- Two parts that blame no setting blame none one after the other. -/
theorem AcceptsSettings.bind (first : AcceptsSettings x) (rest : ∀ a, AcceptsSettings (g a)) :
    AcceptsSettings (x >>= g) := by
  intro w p failed
  rcases endsWith_bind.1 failed with failed | ⟨a, w₁, -, failed⟩
  · exact first w p failed
  · exact rest a w₁ p failed

/-- A choice blames no setting if neither branch does. -/
theorem AcceptsSettings.ite {q : Prop} [Decidable q] {y : Run α} (hx : AcceptsSettings x)
    (hy : AcceptsSettings y) : AcceptsSettings (if q then x else y) := by
  split
  · exact hx
  · exact hy

/-- A check that can only end the run, and not with a problem of the configuration. -/
theorem AcceptsSettings.unless {q : Prop} [Decidable q] {e : Fault} {y : Run β}
    (other : ∀ p, e ≠ .failure (.configuration p)) (hy : AcceptsSettings y) :
    AcceptsSettings (if q then (throw e : Run α) >>= g else y) := by
  refine AcceptsSettings.ite ?_ hy
  intro w p failed
  rcases endsWith_bind.1 failed with failed | ⟨a, w₁, went, -⟩
  · exact other p (endsWith_throw.1 failed)
  · exact not_throw_eq_ok went

/-- A part that blames no setting blames none if an event may be told before it. -/
theorem AcceptsSettings.tellIf {q : Prop} [Decidable q] {e : Event} {k : Unit → Run β}
    (rest : ∀ u, AcceptsSettings (k u)) : AcceptsSettings (if q then tell e >>= k else k ()) :=
  AcceptsSettings.ite ((acceptsSettings_tell e).bind rest) (rest ())

/-- Rewording that makes no fault one of the configuration. -/
theorem AcceptsSettings.rethrow {h : Fault → Fault} (block : AcceptsSettings x)
    (other : ∀ e p, h e = .failure (.configuration p) → e = .failure (.configuration p)) :
    AcceptsSettings (tryCatch x fun e => throw (h e)) := by
  intro w p failed
  obtain ⟨e, failed, shown⟩ := endsWith_rethrow.1 failed
  obtain rfl := other e p shown
  exact block w p failed

end Run

open Run

/-! ## Files and images -/

namespace InputFile

variable {fs : FileSystem} {path : String} {p : ConfigurationProblem}

/-- What stands in a file is no problem of the configuration, nor is a file that cannot be read. -/
theorem read_ne_configuration {α : Type} {role : FileRole} {f : Bytes → Except Fault α}
    {report : Obstacle → Fault} (reported : ∀ o, report o ≠ .failure (.configuration p))
    (held : ∀ b, f b ≠ .error (.failure (.configuration p))) :
    ((octets fs role path).mapError report >>= f) ≠ .error (.failure (.configuration p)) := by
  intro h
  rcases Outcome.bind_eq_error.1 h with failed | ⟨b, -, failed⟩
  · obtain ⟨o, -, shown⟩ := Outcome.mapError_eq_error.1 failed
    exact reported o shown
  · exact held b failed

/-- An obstacle on the way to a file is no problem of the configuration. -/
theorem fault_ne_configuration (o : Obstacle) : o.fault ≠ .failure (.configuration p) := by
  cases o <;> simp [Obstacle.fault]

/-- Reading a certificate is never blamed on a setting. -/
theorem certificate_ne_configuration :
    certificate fs path ≠ .error (.failure (.configuration p)) := by
  refine read_ne_configuration fault_ne_configuration fun b => ?_
  split <;> simp [Outcome.throw_eq_error, Outcome.pure_ne_error]

/-- Reading a private key is never blamed on a setting. -/
theorem privateKey_ne_configuration {encoding : String} {password : Option Bytes} :
    privateKey fs path encoding password ≠ .error (.failure (.configuration p)) := by
  refine read_ne_configuration fault_ne_configuration fun b => ?_
  dsimp only
  split <;> simp [Outcome.throw_eq_error, Outcome.pure_ne_error]

/-- Reading a bundle is never blamed on a setting. -/
theorem bundle_ne_configuration : bundle fs path ≠ .error (.failure (.configuration p)) := by
  refine read_ne_configuration (fun o => by cases o <;> simp) fun b => ?_
  split <;> simp [Outcome.throw_eq_error, Outcome.pure_ne_error]

end InputFile

/-- An image that cannot be loaded is no problem of the configuration. -/
theorem Image.loaded_ne_configuration {fs : FileSystem} {path : String} {p : ConfigurationProblem} :
    Image.loaded fs path ≠ .error (.failure (.configuration p)) := by
  have layout {α : Type} {r : Except LayoutProblem α} :
      r.mapError (fun q => Fault.failure (.layout (some path) q))
        ≠ .error (.failure (.configuration p)) := by
    rcases r with q | a <;> simp [Except.mapError]
  intro h
  unfold loaded ofFile at h
  rcases Outcome.bind_eq_error.1 h with failed | ⟨raw, -, h⟩
  · obtain ⟨e, -, shown⟩ := Outcome.mapError_eq_error.1 failed
    cases e <;> cases shown
  rcases Outcome.bind_eq_error.1 h with failed | ⟨parts, -, h⟩
  · exact layout failed
  rcases Outcome.bind_eq_error.1 h with failed | ⟨contents, -, h⟩
  · exact layout failed
  rcases Outcome.bind_eq_error.1 h with failed | ⟨stored, -, h⟩
  · obtain ⟨-, b, -, -, -, failed⟩ := Outcome.mapM_eq_error_iff.1 failed
    rcases storedOf_eq_error.1 failed with ⟨_, -, -, other⟩ | ⟨-, other⟩
    · cases other
    · cases other
  · exact Outcome.pure_ne_error h

/-! ## Signing and writing -/

section
variable {n : Nat}

/-- Running a tool blames no setting. -/
theorem Engine.acceptsSettings_runTool (tool : String) (request : ToolRequest) :
    AcceptsSettings (runTool tool request) := by
  refine acceptsSettings_get.bind fun w => ?_
  split
  · exact acceptsSettings_pure _
  · exact (acceptsSettings_modify _).bind fun _ => acceptsSettings_pure _

/-- Signing on a token blames none: what is wrong there is a failure of the envelope or a defect. -/
theorem Engine.acceptsSettings_sign (e : Engine) (attributes : Option KeyReference.Attributes)
    (m : Mechanism) (message : Bytes) : AcceptsSettings (e.sign n attributes m message) := by
  unfold sign
  split
  · exact acceptsSettings_fail (by simp)
  refine (acceptsSettings_modify _).bind fun _ => ?_
  split
  · exact acceptsSettings_defect _
  dsimp only
  split
  · exact acceptsSettings_defect _
  refine AcceptsSettings.unless (by simp) ((acceptsSettings_runTool _ _).bind fun answer => ?_)
  split
  · exact acceptsSettings_fail (by simp)
  refine (acceptsSettings_modify _).bind fun _ => AcceptsSettings.unless (by simp) ?_
  split
  · exact acceptsSettings_pure _
  · exact acceptsSettings_fail (by simp)

/-- Signing with any key blames no setting. -/
theorem SigningKey.acceptsSettings_sign (key : SigningKey) (f : HashFunction) (message : Bytes) :
    AcceptsSettings (key.sign f message) := by
  unfold sign
  cases key with
  | inMemory key =>
    refine AcceptsSettings.unless (by simp) ?_
    dsimp only
    split
    · exact acceptsSettings_pure _
    · exact acceptsSettings_defect _
  | onToken n attributes algorithm =>
    refine acceptsSettings_get.bind fun w => AcceptsSettings.unless (by simp) ?_
    split
    · exact acceptsSettings_fail (by simp)
    · refine acceptsSettings_get.bind fun w => ?_
      split
      · exact Engine.acceptsSettings_sign _ _ _ _
      · exact acceptsSettings_defect _

end

namespace Signature

/-- Writing a signature's octets blames no setting. -/
theorem acceptsSettings_written (s : Signature) : AcceptsSettings s.written := by
  refine (acceptsSettings_lift_defect _ _).bind fun t => ?_
  exact AcceptsSettings.unless (by simp) (acceptsSettings_pure _)

/-- Rewording what a key answers makes nothing a problem of the configuration. -/
theorem rejected_eq_configuration {e : Fault} {p : ConfigurationProblem}
    (h : rejected e = .failure (.configuration p)) : e = .failure (.configuration p) := by
  unfold rejected at h
  split at h
  · cases h
  · cases h
  · exact h

/-- Building a signature blames no setting. -/
theorem acceptsSettings_build (i : Identity) (d : Digest) : AcceptsSettings (build i d) := by
  have subject (c : Certificate) : AcceptsSettings (Run.subject c) := acceptsSettings_lift_defect _ _
  have finished (s : Signature) : AcceptsSettings (do
      let t ← s.written
      tell (.signatureBuilt d.algorithm.name (← i.subject) t.der.length)
      return t) := by
    refine (acceptsSettings_written s).bind fun t => (subject i.certificate).bind fun _ => ?_
    exact (acceptsSettings_tell _).bind fun _ => acceptsSettings_pure t
  rw [build_eq]
  refine AcceptsSettings.bind ?_ fun algorithm => ?_
  · exact acceptsSettings_lift fun e p _ => by simp
  unfold signContent
  refine AcceptsSettings.bind ?_ fun value => ?_
  · exact (SigningKey.acceptsSettings_sign _ _ _).rethrow fun _ _ => rejected_eq_configuration
  refine AcceptsSettings.ite ((subject _).bind fun t => ?_) (finished _)
  exact (acceptsSettings_fail (by simp)).bind fun _ => finished _

/-- Adding a bundle to a signature blames none. -/
theorem acceptsSettings_augment (s : Signature) (path : String) : AcceptsSettings (s.augment path) := by
  unfold augment
  refine acceptsSettings_get.bind fun v => AcceptsSettings.bind ?_ fun chain => ?_
  · exact acceptsSettings_lift_id fun _ => InputFile.bundle_ne_configuration
  refine AcceptsSettings.tellIf fun _ => (acceptsSettings_written _).bind fun t => ?_
  exact (acceptsSettings_tell _).bind fun _ => acceptsSettings_pure t

end Signature

/-- Writing a file blames no setting. -/
theorem acceptsSettings_writeFile (path : String) (b : Bytes) : AcceptsSettings (writeFile path b) := by
  unfold writeFile
  refine acceptsSettings_get.bind fun w => ?_
  dsimp only
  refine (acceptsSettings_modify _).bind fun _ => ?_
  split
  · exact acceptsSettings_tell _
  · exact acceptsSettings_fail (by simp)
  · exact acceptsSettings_defect _

/-- Writing an image, whole or detached, blames none. -/
theorem Image.acceptsSettings_writeTo (image : Image) (detached : Bool) (v : Value) :
    AcceptsSettings (image.writeTo detached v) := by
  have told (e : Event) (k : Nat) : AcceptsSettings (tell e >>= fun _ => (pure k : Run Nat)) :=
    (acceptsSettings_tell e).bind fun _ => acceptsSettings_pure k
  unfold writeTo
  split
  · unfold write writeCombined writeDetached
    refine AcceptsSettings.ite ?_ ?_
    · split
      · exact acceptsSettings_fail (by simp)
      · refine AcceptsSettings.bind ?_ fun _ => told _ _
        split
        · exact acceptsSettings_fail (by simp)
        · exact acceptsSettings_writeFile _ _
    · refine AcceptsSettings.bind ?_ fun _ => told _ _
      exact (acceptsSettings_lift_defect _ _).bind fun out => acceptsSettings_writeFile _ _
  · refine AcceptsSettings.ite ?_ (acceptsSettings_defect _)
    refine AcceptsSettings.bind ?_ fun _ => acceptsSettings_defect _
    exact (acceptsSettings_lift_defect _ _).bind fun _ => acceptsSettings_pure _

end ImageSigning
