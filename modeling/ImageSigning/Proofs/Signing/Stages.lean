import ImageSigning.Proofs.Image.Loading
import ImageSigning.Proofs.Session

/-!
# The stages of a run

A run first finds out what it is to do: its settings are checked, the image is loaded, and the request for
an identity is put together. That depends on the settings and the files alone and changes nothing. The
rest is done with an identity, and the result is put together from what that gives. Whatever is to be
known of a run is known from these two parts.

* **`Configuration.prepare`**, **`Configuration.body`** — the two parts.
* **`Configuration.sign_eq`** — a run is the one followed by the other.
* **`Configuration.prepare_gives`**, **`Configuration.prepared_eq_ok`** — what the first comes to.
* **`Configuration.sign_stages`** — what every run comes to.
-/

namespace ImageSigning.Configuration

open Run

variable {c : Configuration} {fs : FileSystem} {n : Nat} {w w' : World}

/-! ## The two parts -/

/-- What a run does before it asks for an identity. -/
def prepare (c : Configuration) : Run (DigestAlgorithm × Image × IdentityRequest) := do
  Run.lift id c.validate
  let algorithm ← Run.lift id c.digestAlgorithm
  let image ← Image.load (c.get .image).display
  if image.signatures.count ≠ 0 then Run.tell (.alreadySigned image.path image.signatures.count)
  let request ← Run.lift id c.identityRequest
  return (algorithm, image, request)

/-- What a run does with an identity. -/
def body (c : Configuration) (image : Image) (a : DigestAlgorithm) (i : Identity) :
    Run (Digest × Signature × Image) := do
  let digest ← image.digest a
  Run.tell (.digestChosen a.name digest.toHex)
  let signature ← c.signatureOver digest i
  return (digest, signature, ← c.attach image signature)

/-- The result, from what was done with the identity. -/
def result (c : Configuration) (image : Image) (made : Digest × Signature × Image) : SigningResult :=
  ⟨c.outputPath, image.signatures.count, made.2.2.signatures.count, made.1, made.2.1,
    c.get .detached⟩

/-- A run is its preparation, followed by what is done with the identity. -/
theorem sign_eq (c : Configuration) : c.sign = c.prepare >>= fun found =>
    Identity.use found.2.2 (c.body found.2.1 found.1) >>= fun m => pure (c.result found.2.1 m) := by
  unfold sign prepare
  simp only [bind_assoc]
  refine bind_congr fun _ => bind_congr fun a => bind_congr fun image => ?_
  split
  · simp only [bind_assoc, pure_bind]
    rfl
  · simp only [bind_assoc, pure_bind]
    rfl

/-! ## The preparation -/

/-- What the preparation finds out, from the settings and the files. -/
def prepared (c : Configuration) (fs : FileSystem) :
    Except Fault (DigestAlgorithm × Image × IdentityRequest) := do
  c.validate
  let algorithm ← c.digestAlgorithm
  let image ← Image.loaded fs (c.get .image).display
  let request ← c.identityRequest
  return (algorithm, image, request)

/-- Preparing a run gives what `prepared` says, and looks at nothing but the files. -/
theorem prepare_gives : Gives fs c.prepare (c.prepared fs) := by
  unfold prepare prepared
  refine (gives_lift_id _).bind fun _ => (gives_lift_id _).bind fun a => ?_
  refine Image.load_gives.bind fun image => gives_tellIf ?_
  exact (gives_lift_id _).bind fun r => gives_pure _

/-- Preparing a run is quiet. -/
theorem prepare_quiet : IsQuiet n c.prepare := by
  unfold prepare
  refine (leaves_lift _ _).bind fun _ => (leaves_lift _ _).bind fun a => ?_
  refine (Image.load_quiet _).bind fun image => IsQuiet.tellIf ?_
  exact (leaves_lift _ _).bind fun r => leaves_pure _

/-- A run is prepared exactly if each of its four parts is. -/
theorem prepared_eq_ok {a : DigestAlgorithm} {image : Image} {r : IdentityRequest} :
    c.prepared fs = .ok (a, image, r) ↔ c.validate = .ok () ∧ c.digestAlgorithm = .ok a ∧
      Image.loaded fs (c.get .image).display = .ok image ∧ c.identityRequest = .ok r := by
  unfold prepared
  simp only [Outcome.bind_eq_ok, Outcome.pure_eq_ok]
  constructor
  · rintro ⟨_, valid, a', algorithm, image', loaded, r', asked, shape⟩
    obtain ⟨rfl, rest⟩ := Prod.mk.inj shape
    obtain ⟨rfl, rfl⟩ := Prod.mk.inj rest
    exact ⟨valid, algorithm, loaded, asked⟩
  · rintro ⟨valid, algorithm, loaded, asked⟩
    exact ⟨(), valid, a, algorithm, image, loaded, r, asked, rfl⟩

/-! ## The run -/

/-- A run ends with its preparation, or comes to what is done with the identity. -/
theorem sign_stages {o : Except Fault SigningResult} (h : c.sign w = (o, w')) :
    (∃ f, o = .error f ∧ c.prepared w.files = .error f ∧ ∀ n, World.IsQuiet n w w') ∨
    ∃ a image r w₁ o', c.prepared w.files = .ok (a, image, r) ∧ (∀ n, World.IsQuiet n w w₁) ∧
      Identity.use r (c.body image a) w₁ = (o', w') ∧ o = o'.map (c.result image) := by
  obtain ⟨w₁, first, -⟩ := prepare_gives (c := c) w rfl
  have quiet (n : Nat) : World.IsQuiet n w w₁ := prepare_quiet.of_eq first
  rw [sign_eq] at h
  rcases found : c.prepared w.files with f | ⟨a, image, r⟩
  · rw [found] at first
    rw [bind_of_error first] at h
    obtain ⟨rfl, rfl⟩ := Prod.mk.inj h
    exact .inl ⟨f, rfl, rfl, quiet⟩
  · rw [found] at first
    rw [bind_of_ok first] at h
    refine .inr ⟨a, image, r, w₁, ?_⟩
    rcases bind_cases h with ⟨f, rfl, failed⟩ | ⟨m, w₂, used, h⟩
    · exact ⟨.error f, rfl, quiet, failed, rfl⟩
    · obtain ⟨rfl, rfl⟩ := Prod.mk.inj h
      exact ⟨.ok m, rfl, quiet, used, rfl⟩

end ImageSigning.Configuration
