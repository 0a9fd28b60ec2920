import ImageSigning.InputFile
import ImageSigning.Proofs.Run

/-!
# Runs that end with a defect

A failure has a report, a defect has none. The defects that a sequence can end with are those of its
steps, each in the surroundings in which it is run, so what a long run can end with is put together from
what its steps can. The steps that read a file are the first of these: a path can be too long to be looked
for at all, and a file can hold a certificate or a key of a kind that nobody asks about.

* **`Run.DefectsIn`** — every defect that a run ends with is one of some.
* **`FileSystem.leadsSomewhere_eq_error`** — only what is too long cannot be looked for.
* **`InputFile.certificate_eq_defect`**, **`InputFile.privateKey_eq_defect`**,
  **`InputFile.bundle_eq_defect`** — the defects of reading a file that a signature is made from.
-/

namespace ImageSigning

namespace Run

variable {α β ε : Type} {P Q : Defect → Prop} {w : World} {x : Run α} {f : α → Run β}

/-- Every defect that the run ends with in these surroundings is one of some. -/
def DefectsIn (P : Defect → Prop) (x : Run α) (w : World) : Prop :=
  ∀ d w', x w = (.error (.defect d), w') → P d

/-- A run whose defects are of one kind has them of any wider kind. -/
theorem DefectsIn.mono (h : DefectsIn P x w) (wider : ∀ d, P d → Q d) : DefectsIn Q x w :=
  fun d w' ran => wider d (h d w' ran)

/-- The defects of a sequence are those of its first step, and those of the rest where it goes on. -/
theorem DefectsIn.bind (first : DefectsIn P x w)
    (rest : ∀ a w', x w = (.ok a, w') → DefectsIn P (f a) w') : DefectsIn P (x >>= f) w := by
  intro d w' ran
  rcases bind_cases ran with ⟨e, same, failed⟩ | ⟨a, w₁, went, ran⟩
  · obtain rfl := Except.error.inj same
    exact first d w' failed
  · exact rest a w₁ went d w' ran

/-- A result is no defect. -/
theorem defectsIn_pure (a : α) : DefectsIn P (pure a : Run α) w := by
  intro d w' ran
  cases ran

/-- A failure is no defect. -/
theorem defectsIn_fail (e : Failure) : DefectsIn P (fail e : Run α) w := by
  intro d w' ran
  cases ran

/-- A defect is of its kind. -/
theorem defectsIn_defect {d : Defect} (h : P d) : DefectsIn P (defect d : Run α) w := by
  intro d' w' ran
  obtain rfl := Fault.defect.inj (Except.error.inj (Prod.mk.inj ran).1)
  exact h

/-- Looking at the surroundings ends with no defect. -/
theorem defectsIn_get : DefectsIn P (get : Run World) w := by
  intro d w' ran
  cases ran

/-- Telling an event ends with no defect. -/
theorem defectsIn_tell (e : Event) : DefectsIn P (tell e) w := by
  intro d w' ran
  cases ran

/-- Changing the surroundings ends with no defect. -/
theorem defectsIn_modify (g : World → World) : DefectsIn P (modify g : Run PUnit) w := by
  intro d w' ran
  cases ran

/-- A lifted outcome has the defects that its problems stand for. -/
theorem defectsIn_lift {fault : ε → Fault} {r : Except ε α}
    (h : ∀ e d, r = .error e → fault e = .defect d → P d) : DefectsIn P (lift fault r) w := by
  intro d w' ran
  rw [lift_eq] at ran
  obtain ⟨e, failed, shown⟩ := Outcome.mapError_eq_error.1 (Prod.mk.inj ran).1
  exact h e d failed shown

/-- A problem that is a failure is no defect. -/
theorem defectsIn_lift_failure (f : ε → Failure) (r : Except ε α) :
    DefectsIn P (lift (fun e => .failure (f e)) r) w := by
  refine defectsIn_lift fun e d _ other => ?_
  cases other

/-- A choice has the defects of the branch that is taken. -/
theorem DefectsIn.ite {p : Prop} [Decidable p] {y : Run α} (hx : p → DefectsIn P x w)
    (hy : ¬ p → DefectsIn P y w) : DefectsIn P (if p then x else y) w := by
  split
  · exact hx ‹p›
  · exact hy ‹¬ p›

/-- A check that can only end the run with a failure. -/
theorem DefectsIn.failUnless {p : Prop} [Decidable p] {e : Failure} {y : Run β}
    (hy : ¬ p → DefectsIn P y w) : DefectsIn P (if p then (fail e : Run α) >>= f else y) w := by
  refine DefectsIn.ite (fun _ => ?_) hy
  exact (defectsIn_fail e).bind fun a w' went => (not_fail_eq_ok went).elim

/-- An event that may be told adds no defect. -/
theorem DefectsIn.tellIf {p : Prop} [Decidable p] {e : Event} {k : Unit → Run β}
    (h : ∀ w', w' = w ∨ w' = w.tell e → DefectsIn P (k ()) w') :
    DefectsIn P (if p then tell e >>= k else k ()) w := by
  refine DefectsIn.ite (fun _ => ?_) fun _ => h w (.inl rfl)
  exact (defectsIn_tell e).bind fun _ w' told => h w' (.inr (tell_eq_ok.1 told).symm)

end Run

/-! ## Paths that cannot be looked for -/

namespace FileSystem

variable {fs : FileSystem} {path : String} {e : SystemError}

/-- A path that is too long, or has a name that is. -/
def IsTooLong (path : String) : Prop :=
  maxPath < octets path ∨ ∃ name ∈ Text.parts '/' path, maxName < octets name

/-- A walk ends early at something that is not there, at a file, or at a name that is too long. -/
theorem walk_eq_error {names : List String} {start : Location} (h : walk fs start names = .error e)
    (other : e ≠ .noEntry ∧ e ≠ .notDirectory) :
    e = .nameTooLong ∧ ∃ name ∈ names, maxName < octets name := by
  have absent {q : Prop} (here : Except.error SystemError.noEntry = (.error e : Except _ Target)) : q :=
    (other.1 (Except.error.inj here).symm).elim
  induction names generalizing start with
  | nil =>
    rw [walk] at h
    split at h
    · cases h
    · exact absent h
  | cons name names ih =>
    -- every step that does not end the walk leaves fewer names
    have later {next : Location} (h : walk fs next names = .error e) :
        e = .nameTooLong ∧ ∃ n ∈ name :: names, maxName < octets n := by
      obtain ⟨rfl, n, m, long⟩ := ih h
      exact ⟨rfl, n, List.mem_cons_of_mem _ m, long⟩
    rw [walk] at h
    split at h
    · exact absent h
    · exact (other.2 (Except.error.inj h).symm).elim
    · split at h
      · exact later h
      · split at h
        · rename_i long
          exact ⟨(Except.error.inj h).symm, name, List.mem_cons_self .., long⟩
        · dsimp only at h
          split at h
          · exact later h
          · split at h
            · split at h
              · cases h
              · exact absent h
            · exact later h

/-- Finding a path fails, but for something that is not there, only at what is too long. -/
theorem find_eq_error (h : fs.find path = .error e) (other : e ≠ .noEntry ∧ e ≠ .notDirectory) :
    e = .nameTooLong ∧ IsTooLong path := by
  unfold find at h
  split at h
  · exact (other.1 (Except.error.inj h).symm).elim
  · split at h
    · rename_i long
      exact ⟨(Except.error.inj h).symm, .inl long⟩
    · obtain ⟨here, long⟩ := walk_eq_error h other
      exact ⟨here, .inr long⟩

/-- Only what is too long cannot be looked for. -/
theorem leadsSomewhere_eq_error (h : fs.leadsSomewhere path = .error e) :
    e = .nameTooLong ∧ IsTooLong (simplify path) := by
  unfold leadsSomewhere at h
  split at h
  · cases h
  · split at h
    · cases h
    · cases h
    · cases h
    · cases h
    · rename_i e' absent file found
      obtain rfl := Except.error.inj h
      refine find_eq_error found ⟨?_, ?_⟩
      · rintro rfl
        exact absent rfl
      · rintro rfl
        exact file rfl

/-- What can be looked for is a path without the character that ends paths. -/
theorem read_ne_nullCharacter (h : fs.leadsSomewhere path = .ok true) :
    fs.read path ≠ .error .nullCharacter := by
  unfold leadsSomewhere at h
  unfold read
  split at h
  · cases h
  · rename_i plain
    rw [if_neg plain]
    split <;> simp

/-- A path with that character cannot be written to, and no other path is refused for it. -/
theorem replace_eq_nullCharacter {b : Bytes} {fs' : FileSystem}
    (h : fs.replace path b = (.error .nullCharacter, fs')) : hasNull path = true := by
  unfold replace at h
  split at h
  · assumption
  · dsimp only at h
    split at h
    · cases h
    · split at h <;> cases h

end FileSystem

/-! ## Input files -/

namespace InputFile

variable {fs : FileSystem} {path : String} {d : Defect}

/-- A path that is too long to be looked for, as a defect. -/
def IsUnreachable (fs : FileSystem) (path : String) (d : Defect) : Prop :=
  fs.leadsSomewhere path = .error .nameTooLong ∧ d = .unreachable .nameTooLong

/-- A path is out of reach exactly if looking for it fails, whatever the error is. -/
theorem isUnreachable_iff : IsUnreachable fs path d ↔
    ∃ e, fs.leadsSomewhere path = .error e ∧ d = .unreachable e := by
  constructor
  · rintro ⟨failed, rfl⟩
    exact ⟨_, failed, rfl⟩
  · rintro ⟨e, failed, rfl⟩
    obtain ⟨rfl, -⟩ := FileSystem.leadsSomewhere_eq_error failed
    exact ⟨failed, rfl⟩

/-- The octets of a file are not to be had, without a report, exactly if its path cannot be looked for. -/
theorem octets_eq_defect {role : FileRole} : octets fs role path = .error (.defect d) ↔
    IsUnreachable fs path d := by
  rw [isUnreachable_iff]
  unfold octets
  rcases looked : fs.leadsSomewhere path with e | _ | _
  · simp [eq_comm]
  · simp
  · have plain := FileSystem.read_ne_nullCharacter looked
    rcases read : fs.read path with ⟨e | _⟩ | b'
    · simp
    · exact (plain read).elim
    · simp

/-- An obstacle is a defect exactly if it is that one. -/
theorem fault_eq_defect {o : Obstacle} : o.fault = .defect d ↔ o = .defect d := by
  cases o <;> simp [Obstacle.fault]

/-- Reading what a file holds, with a report of each obstacle but one, ends with a defect in one of two
ways. -/
theorem read_eq_defect {α : Type} {role : FileRole} {f : Bytes → Except Fault α}
    {report : Obstacle → Fault} (reported : ∀ o, report o = .defect d ↔ o = .defect d) :
    ((octets fs role path).mapError report >>= f) = .error (.defect d) ↔
      IsUnreachable fs path d ∨ ∃ b, octets fs role path = .ok b ∧ f b = .error (.defect d) := by
  rw [Outcome.bind_eq_error, Outcome.mapError_eq_error]
  simp only [Outcome.mapError_eq_ok, reported, exists_eq_right, octets_eq_defect]

/-- A certificate of a version that does not exist is refused without a report. -/
theorem certificate_eq_defect : certificate fs path = .error (.defect d) ↔
    IsUnreachable fs path d ∨ ∃ b, octets fs .certificate path = .ok b ∧
      Certificate.ofFile b = .error (.certificate .unknownVersion) ∧
      d = .certificate .unknownVersion := by
  unfold certificate
  rw [read_eq_defect fun _ => fault_eq_defect]
  refine or_congr Iff.rfl (exists_congr fun b => and_congr Iff.rfl ?_)
  rcases Certificate.ofFile b with p | c
  · rcases p with q | _ | _ | _
    · simp [Outcome.throw_eq_error]
    · simp [Outcome.throw_eq_error]
    · simp [Outcome.throw_eq_error]
    · simp [Outcome.throw_eq_error, eq_comm (a := d)]
  · simp [Outcome.pure_ne_error]

/-- In octets every form but those that are known is malformed. -/
theorem ofDer_ne_unsupported (password : Option Bytes) (b : Bytes) :
    PrivateKey.ofDer password b ≠ .error .unsupported := by
  unfold PrivateKey.ofDer PrivateKey.unlocked
  split
  all_goals first
    | (split <;> simp)
    | simp

/-- A private key of a kind that is not known is refused without a report, where it stands as text. -/
theorem privateKey_eq_defect {encoding : String} {password : Option Bytes} :
    privateKey fs path encoding password = .error (.defect d) ↔
      IsUnreachable fs path d ∨ ∃ b, octets fs .privateKey path = .ok b ∧
        Text.upper encoding ≠ "DER" ∧ PrivateKey.ofPem password b = .error .unsupported ∧
        d = .unsupportedPrivateKey := by
  unfold privateKey
  rw [read_eq_defect fun _ => fault_eq_defect]
  refine or_congr Iff.rfl (exists_congr fun b => and_congr Iff.rfl ?_)
  have unsupported : (if Text.upper encoding = "DER" then PrivateKey.ofDer password b
      else PrivateKey.ofPem password b) = .error .unsupported ↔
        Text.upper encoding ≠ "DER" ∧ PrivateKey.ofPem password b = .error .unsupported := by
    split
    · rename_i named
      simp [named, ofDer_ne_unsupported]
    · rename_i named
      simp [named]
  rw [← and_assoc, ← unsupported]
  dsimp only
  rcases (if Text.upper encoding = "DER" then PrivateKey.ofDer password b
    else PrivateKey.ofPem password b) with p | key
  · cases p <;> simp [Outcome.throw_eq_error, eq_comm (a := d)]
  · simp [Outcome.pure_ne_error]

/-- A bundle with a certificate of a version that does not exist is refused without a report. -/
theorem bundle_eq_defect : bundle fs path = .error (.defect d) ↔
    IsUnreachable fs path d ∨ ∃ b, octets fs .chain path = .ok b ∧
      Bundle.read b = .error .unknownVersion ∧ d = .certificate .unknownVersion := by
  unfold bundle
  rw [read_eq_defect fun o => by cases o <;> simp]
  refine or_congr Iff.rfl (exists_congr fun b => and_congr Iff.rfl ?_)
  rcases Bundle.read b with ⟨p | _⟩ | cs
  · simp [Outcome.throw_eq_error]
  · simp [Outcome.throw_eq_error, eq_comm (a := d)]
  · simp [Outcome.pure_ne_error]

end InputFile

end ImageSigning
