import ImageSigning.Proofs.Outcome
import ImageSigning.Signing

/-!
# Settings with the values that they are meant to have

The values of settings are checked when they are used. A setting is meant to be a name, a flag, or a text
that can be left out; where each of them is, checking them and asking for an identity ends with a result
or with a failure, and what is needed later is a text.

* **`Setting.Admits`**, **`Configuration.IsTyped`** — the values that settings are meant to have.
* **`Configuration.validate_eq_ok`** — what is known of settings that were checked.
* **`Configuration.IsTyped.validate_ne_defect`**, **`Configuration.IsTyped.identityRequest_ne_defect`**,
  **`Configuration.IsTyped.ofName_ne_defect`** — refusals are reported.
-/

namespace ImageSigning

/-- The values that a setting is meant to have: a name, a flag, or a text that can be left out. -/
def Setting.Admits : Setting → Value → Prop
  | .keyFormat, v | .digest, v => ∃ s, v = .text s
  | .detached, v | .verbose, v => ∃ b, v = .flag b
  | _, v => v = .null ∨ ∃ s, v = .text s

namespace Configuration

variable {c : Configuration} {d : Defect}

/-- Every setting has a value that it is meant to have. -/
def IsTyped (c : Configuration) : Prop := ∀ s : Setting, s.Admits (c.get s)

/-! ## Settings that were checked -/

/-- What is needed is there, and the names are known. -/
theorem validate_eq_ok (h : c.validate = .ok ()) : (c.get .image).isSet = true ∧
    (c.get .certificate).isSet = true ∧ (c.get .key).isSet = true ∧
    (∃ f, c.keyFormat = .ok f ∧ (f = .engine → (c.get .engine).isSet = true)) ∧
    ∃ a, c.digestAlgorithm = .ok a := by
  have required {s : Setting} {p : ConfigurationProblem} {u : Unit} (h : c.require s p = .ok u) :
      (c.get s).isSet = true := by
    unfold require at h
    split at h
    · assumption
    · cases h
  unfold validate at h
  obtain ⟨_, image, h⟩ := Outcome.bind_eq_ok.1 h
  obtain ⟨_, certificate, h⟩ := Outcome.bind_eq_ok.1 h
  obtain ⟨_, key, h⟩ := Outcome.bind_eq_ok.1 h
  obtain ⟨format, formatNamed, h⟩ := Outcome.bind_eq_ok.1 h
  obtain ⟨engine, h⟩ := Outcome.failUnless_eq_ok.1 h
  obtain ⟨_, -, h⟩ := Outcome.bind_eq_ok.1 h
  obtain ⟨algorithm, algorithmNamed, -⟩ := Outcome.bind_eq_ok.1 h
  refine ⟨required image, required certificate, required key, ⟨format, ?_, ?_⟩, algorithm, ?_⟩
  · exact formatNamed
  · intro named
    by_contra missing
    exact engine ⟨named, by simpa using missing⟩
  · exact algorithmNamed

/-- What the check of the settings ends with, if it refuses them. -/
theorem validate_eq_error {f : Fault} (h : c.validate = .error f) :
    (∃ s, ∃ p ∈ [ConfigurationProblem.noImage, .noCertificate, .noKey], c.require s p = .error f) ∨
      c.keyFormat = .error f ∨ f = .failure (.configuration .engineRequired) ∨
      c.checkEngine = .error f ∨ c.digestAlgorithm = .error f := by
  unfold validate at h
  rcases Outcome.bind_eq_error.1 h with h | ⟨_, -, h⟩
  · exact .inl ⟨_, _, by simp, h⟩
  rcases Outcome.bind_eq_error.1 h with h | ⟨_, -, h⟩
  · exact .inl ⟨_, _, by simp, h⟩
  rcases Outcome.bind_eq_error.1 h with h | ⟨_, -, h⟩
  · exact .inl ⟨_, _, by simp, h⟩
  rcases Outcome.bind_eq_error.1 h with h | ⟨format, -, h⟩
  · exact .inr (.inl h)
  split at h
  · exact .inr (.inr (.inl (Except.error.inj h).symm))
  rcases Outcome.bind_eq_error.1 h with h | ⟨_, -, h⟩
  · exact .inr (.inr (.inr (.inl h)))
  rcases Outcome.bind_eq_error.1 h with h | ⟨_, -, h⟩
  · exact .inr (.inr (.inr (.inr h)))
  · exact (Outcome.pure_ne_error h).elim

/-- A problem of the configuration is reported, and no defect. -/
theorem mapError_ne_defect {α : Type} {x : Except ConfigurationProblem α} :
    x.mapError (fun p => Fault.failure (.configuration p)) ≠ .error (.defect d) := by
  rcases x with p | a <;> simp [Except.mapError]

/-- A text that can be left out, and is not. -/
theorem exists_text_of_isSet {v : Value} (h : v = .null ∨ ∃ s, v = .text s) (set : v.isSet = true) :
    ∃ s, v = .text s := by
  rcases h with rfl | text
  · cases set
  · exact text

namespace IsTyped

/-- The output is a path wherever there is an image. -/
theorem exists_outputPath (typed : c.IsTyped) (image : (c.get .image).isSet = true) :
    ∃ path, c.outputPath = .text path := by
  obtain ⟨input, named⟩ := exists_text_of_isSet (typed .image) image
  unfold outputPath
  split
  · rename_i given
    exact exists_text_of_isSet (typed .output) given
  · rw [named]
    exact ⟨_, rfl⟩

/-! ## Refusals are reported -/

/-- With typed settings the engine's name is there or is none. -/
theorem exists_engineName (typed : c.IsTyped) : ∃ n, c.engineName = .ok n := by
  unfold engineName
  rcases (typed .engine : c.get .engine = .null ∨ _) with noEngine | ⟨s, named⟩
  · rw [noEngine]
    exact ⟨none, rfl⟩
  · rw [named]
    exact ⟨some s, rfl⟩

/-- With typed settings an unknown key format is reported. -/
theorem keyFormat_ne_defect (typed : c.IsTyped) : c.keyFormat ≠ .error (.defect d) := by
  obtain ⟨s, named⟩ : ∃ s, c.get .keyFormat = .text s := typed .keyFormat
  unfold keyFormat requireWritable
  rw [named]
  exact mapError_ne_defect

/-- With typed settings an unknown digest algorithm is reported. -/
theorem digestAlgorithm_ne_defect (typed : c.IsTyped) : c.digestAlgorithm ≠ .error (.defect d) := by
  obtain ⟨s, named⟩ : ∃ s, c.get .digest = .text s := typed .digest
  intro h
  unfold digestAlgorithm requireWritable at h
  rw [named] at h
  rcases Outcome.bind_eq_error.1 h with h | ⟨_, -, h⟩
  · cases h
  · dsimp only at h
    split at h
    · exact Outcome.pure_ne_error h
    · simp [Outcome.throw_eq_error] at h

/-- Settings are refused with a report. -/
theorem validate_ne_defect (typed : c.IsTyped) : c.validate ≠ .error (.defect d) := by
  have required {s : Setting} {p : ConfigurationProblem} :
      c.require s p ≠ .error (.defect d) := by
    unfold require
    split <;> simp
  have engine : c.checkEngine ≠ .error (.defect d) := by
    obtain ⟨n, named⟩ := typed.exists_engineName
    unfold checkEngine
    rw [named]
    split
    · cases n with
      | none => exact Outcome.pure_ne_error
      | some name =>
        change (if _ then throw _ else pure _ : Except Fault Unit) ≠ _
        split
        · simp [Outcome.throw_eq_error]
        · exact Outcome.pure_ne_error
    · exact Outcome.pure_ne_error
  intro h
  rcases validate_eq_error h with ⟨s, p, -, h⟩ | h | h | h | h
  · exact required h
  · exact typed.keyFormat_ne_defect h
  · cases h
  · exact engine h
  · exact typed.digestAlgorithm_ne_defect h

/-- With typed settings, what keeps an identity from being asked for is reported. -/
theorem identityRequest_ne_defect (typed : c.IsTyped) :
    c.identityRequest ≠ .error (.defect d) := by
  obtain ⟨n, named⟩ := typed.exists_engineName
  intro h
  unfold identityRequest at h
  rcases Outcome.bind_eq_error.1 h with h | ⟨format, -, h⟩
  · exact typed.keyFormat_ne_defect h
  · rcases Outcome.bind_eq_error.1 h with h | ⟨origin, -, h⟩
    · unfold origin at h
      rw [named] at h
      cases h
    · exact Outcome.pure_ne_error h

/-- With typed settings an unknown engine is reported: its options are texts, or left out. -/
theorem ofName_ne_defect (typed : c.IsTyped) {name : String}
    {environment : List (String × String)} :
    Provider.ofName (some name) c.engineOptions environment ≠ .error (.defect d) := by
  have taken (name : String) (s : Setting) (found : c.engineOptions.lookup name = some (c.get s))
      (optional : c.get s = .null ∨ ∃ t, c.get s = .text t) :
      ∃ o, EngineSettings.text? c.engineOptions name = some o := by
    unfold EngineSettings.text?
    rcases optional with omitted | ⟨t, given⟩
    · rw [found, omitted]
      exact ⟨none, rfl⟩
    · rw [found, given]
      exact ⟨some t, rfl⟩
  obtain ⟨settings, read⟩ : ∃ settings, EngineSettings.ofOptions? c.engineOptions = some settings := by
    rcases (typed .engine : c.get .engine = .null ∨ _) with noEngine | ⟨s, named⟩
    · unfold engineOptions
      rw [noEngine]
      exact ⟨_, rfl⟩
    · have options : c.engineOptions
          = [("module", c.get .module), ("pin", c.get .pin), ("tool", c.get .tool)] := by
        unfold engineOptions
        rw [named]
        rfl
      obtain ⟨m, module⟩ := taken "module" .module (by rw [options]; rfl) (typed .module)
      obtain ⟨p, pin⟩ := taken "pin" .pin (by rw [options]; rfl) (typed .pin)
      obtain ⟨t, tool⟩ := taken "tool" .tool (by rw [options]; rfl) (typed .tool)
      unfold EngineSettings.ofOptions?
      split
      · rename_i unknown
        rw [options] at unknown
        simp [EngineSettings.names] at unknown
      · rw [module, pin, tool]
        exact ⟨_, rfl⟩
  unfold Provider.ofName
  rw [read]
  dsimp only
  split <;> simp

end IsTyped

end Configuration

end ImageSigning
