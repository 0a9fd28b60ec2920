import ImageSigning.Proofs.Signature.Made
import ImageSigning.Proofs.Signing.Stages
import ImageSigning.Proofs.Writing

/-!
# The steps of a run

A run that succeeds loaded an image, signed its digest with an identity whose certificate was read from
a file, and wrote either the new signature or the image with the signature added. The provider of the
key is shut down afterwards, which leaves the files alone, so what was written can be read.

* **`Image.read_of_writeTo`** — the file that a setting names holds what was written to it.
* **`Identity.use_eq_ok`** — a block with an identity ran with a certificate that was read.
* **`Configuration.HasSigned`** — what a run did that succeeded.
* **`Configuration.hasSigned_of_sign`** — every run that succeeds did that.
-/

namespace ImageSigning

/-! ## Writing -/

/-- What is written of an image with a signature added can be read: the signature by itself or all of the
image. -/
theorem Image.read_of_writeTo {image : Image} {x : StoredSignature} {detached : Bool} {v : Value}
    {n : Nat} {w w' : World} (h : (image.append x).writeTo detached v w = (.ok n, w')) :
    ∃ path out, v = .text path ∧ w'.files.read (FileSystem.simplify path) = .ok out ∧
      (detached = true → out = x.der) ∧
      (detached = false → (image.append x).toBytes = .ok out) := by
  rcases writeTo_cases h with ⟨f, here, -⟩ | ⟨_, path, out, target, -, shown, put, alone, whole⟩
  · cases here
  · exact ⟨path, out, shown, put.read, alone, whole⟩

/-! ## The identity -/

/-- A block with an identity from files or an engine ran with a certificate that was read, and the
files are as the block left them. -/
theorem Identity.use_eq_ok {α : Type} {r : IdentityRequest} {block : Identity → Run α} {a : α}
    {w w' : World} (notGiven : ∀ s, r.origin ≠ .given s) (h : Identity.use r block w = (.ok a, w')) :
    ∃ i w₁ w₂, i.certificate.IsRead ∧ block i w₁ = (.ok a, w₂) ∧ w'.files = w₂.files := by
  unfold Identity.use at h
  obtain ⟨s, w₁, provided, h⟩ := Run.bind_eq_ok.1 h
  obtain ⟨w₂, w₃, -, ran, ended⟩ := KeySource.session_eq_ok.1 h
  obtain ⟨p, n, rfl⟩ : ∃ p n, s = Provider.source p n := by
    have numbered {n : Nat} {v v' : World} (found : Provider.sourceOf n v = (.ok s, v')) :
        ∃ p n, s = Provider.source p n := by
      unfold Provider.sourceOf at found
      obtain ⟨v₁, v₂, -, found⟩ := Run.bind_eq_ok.1 found
      obtain ⟨rfl, -⟩ := Run.pure_eq_ok.1 found
      exact ⟨_, n, rfl⟩
    unfold Identity.provider at provided
    rcases origin : r.origin with _ | ⟨name, options⟩ | s'
    · rw [origin, Run.failUnless_eq_ok] at provided
      obtain ⟨n, v, -, found⟩ := Run.bind_eq_ok.1 provided.2
      exact numbered found
    · rw [origin] at provided
      obtain ⟨n, v, -, found⟩ := Run.bind_eq_ok.1 provided
      exact numbered found
    · exact (notGiven s' origin).elim
  obtain ⟨i, w₄, loaded, ran⟩ := Run.bind_eq_ok.1 ran
  refine ⟨i, w₄, w₃, ?_, ran, Provider.shutDown_files ended⟩
  unfold Identity.load at loaded
  obtain ⟨path, v₁, -, loaded⟩ := Run.bind_eq_ok.1 loaded
  obtain ⟨v, v₂, -, loaded⟩ := Run.bind_eq_ok.1 loaded
  obtain ⟨certificate, v₃, found, loaded⟩ := Run.bind_eq_ok.1 loaded
  obtain ⟨found, -⟩ := Run.lift_eq_ok.1 found
  obtain ⟨key, v₄, -, loaded⟩ := Run.bind_eq_ok.1 loaded
  obtain ⟨summary, v₅, -, loaded⟩ := Run.bind_eq_ok.1 loaded
  obtain ⟨_, v₆, -, loaded⟩ := Run.bind_eq_ok.1 loaded
  obtain ⟨rfl, -⟩ := Run.pure_eq_ok.1 loaded
  exact InputFile.isRead_of_certificate found

/-! ## The run -/

/-- The digest that is told of is the image's under the algorithm. -/
theorem Image.digest_eq_ok {image : Image} {a : DigestAlgorithm} {d : Digest} {w w' : World}
    (h : image.digest a w = (.ok d, w')) : d.algorithm = a ∧
      imageDigest a image.data image.checksum image.entry = .ok d := by
  unfold Image.digest at h
  obtain ⟨d', v, lifted, told⟩ := Run.bind_eq_ok.1 h
  obtain ⟨computed, -⟩ := Run.lift_eq_ok.1 lifted
  obtain ⟨_, v', -, told⟩ := Run.bind_eq_ok.1 told
  obtain ⟨rfl, -⟩ := Run.pure_eq_ok.1 told
  obtain ⟨octets, -, shown⟩ := Outcome.map_eq_ok.1 computed
  exact ⟨by rw [← shown]; rfl, computed⟩

namespace Configuration

/-- The image with the signature is what was written, or else the signature by itself. -/
theorem attach_eq_ok {c : Configuration} {image signed : Image} {s : Signature} {w w' : World}
    (h : c.attach image s w = (.ok signed, w')) : signed = image.append (.decoded s) ∧
      ∃ path out, c.outputPath = .text path ∧
        w'.files.read (FileSystem.simplify path) = .ok out ∧
        ((c.get .detached).isSet = true → out = s.der) ∧
        ((c.get .detached).isSet = false → (image.append (.decoded s)).toBytes = .ok out) := by
  unfold attach at h
  obtain ⟨_, v, -, h⟩ := Run.bind_eq_ok.1 h
  obtain ⟨_, v', written, h⟩ := Run.bind_eq_ok.1 h
  obtain ⟨rfl, rfl⟩ := Run.pure_eq_ok.1 h
  obtain ⟨n, v'', written, h⟩ := Run.bind_eq_ok.1 written
  obtain ⟨path, out, shown, there, alone, whole⟩ := Image.read_of_writeTo written
  obtain ⟨-, rfl⟩ := Run.pure_eq_ok.1 h
  exact ⟨rfl, path, out, shown, there, alone, whole⟩

/-- A configuration's signature over a digest is a made one. -/
theorem made_of_signatureOver {c : Configuration} {d : Digest} {i : Identity} {s : Signature}
    {w w' : World} (h : c.signatureOver d i w = (.ok s, w')) : Signature.Made i d s := by
  unfold signatureOver at h
  obtain ⟨t, w₁, built, h⟩ := Run.bind_eq_ok.1 h
  split at h
  · obtain ⟨path, w₂, -, h⟩ := Run.bind_eq_ok.1 h
    exact .augmented (.built built) h
  · obtain ⟨rfl, -⟩ := Run.pure_eq_ok.1 h
    exact .built built

/-- A configuration never asks for a source that it was given. -/
theorem origin_ne_given {c : Configuration} {r : IdentityRequest}
    (h : c.identityRequest = .ok r) (s : KeySource) : r.origin ≠ .given s := by
  unfold identityRequest at h
  obtain ⟨format, -, h⟩ := Outcome.bind_eq_ok.1 h
  obtain ⟨origin, found, h⟩ := Outcome.bind_eq_ok.1 h
  obtain rfl := Outcome.pure_eq_ok.1 h
  obtain ⟨name, -, rfl⟩ := Outcome.map_eq_ok.1 (Outcome.mapError_eq_ok.1 found)
  cases name <;> simp

/-- What a run did that succeeded: of the file at the image's path it loaded an image, signed its
digest, and wrote the new signature or the image with it. -/
structure HasSigned (c : Configuration) (raw : Bytes) (image : Image) (r : SigningResult)
    (out : Bytes) : Prop where
  loaded : Image.ofFile (c.get .image).display raw = .ok image
  index : r.index = image.signatures.count
  count : r.count = image.signatures.count + 1
  algorithm : c.digestAlgorithm = .ok r.digest.algorithm
  digest : imageDigest r.digest.algorithm image.data image.checksum image.entry = .ok r.digest
  signature : ∃ i, i.certificate.IsRead ∧ Signature.Made i r.digest r.signature
  detached : (c.get .detached).isSet = true → out = r.signature.der
  combined : (c.get .detached).isSet = false →
    (image.append (.decoded r.signature)).toBytes = .ok out

/-- Every run that succeeds did that, and its output can be read. -/
theorem hasSigned_of_sign {c : Configuration} {r : SigningResult} {w w' : World}
    (h : c.sign w = (.ok r, w')) : ∃ raw image path out,
      w.files.read (c.get .image).display = .ok raw ∧ c.outputPath = .text path ∧
      w'.files.read (FileSystem.simplify path) = .ok out ∧ HasSigned c raw image r out := by
  rcases sign_stages h with ⟨_, here, -⟩ | ⟨algorithm, image, request, w₁, o, found, -, used, shape⟩
  · cases here
  obtain ⟨⟨digest, signature, signed⟩, rfl, rfl⟩ := Outcome.map_eq_ok.1 shape.symm
  obtain ⟨-, chosen, found, asked⟩ := prepared_eq_ok.1 found
  obtain ⟨raw, read, loaded⟩ := Outcome.bind_eq_ok.1 found
  rw [Outcome.mapError_eq_ok] at read
  obtain ⟨i, w₇, w₈, certificate, ran, kept⟩ := Identity.use_eq_ok (origin_ne_given asked) used
  -- the block: digest, signature, output
  obtain ⟨d, w₉, digested, ran⟩ := Run.bind_eq_ok.1 ran
  obtain ⟨_, w₁₀, -, ran⟩ := Run.bind_eq_ok.1 ran
  obtain ⟨s, w₁₁, signs, ran⟩ := Run.bind_eq_ok.1 ran
  obtain ⟨m, w₁₂, attached, ran⟩ := Run.bind_eq_ok.1 ran
  obtain ⟨shape, rfl⟩ := Run.pure_eq_ok.1 ran
  obtain ⟨rfl, rest⟩ := Prod.mk.inj shape
  obtain ⟨rfl, rfl⟩ := Prod.mk.inj rest
  obtain ⟨rfl, computed⟩ := Image.digest_eq_ok digested
  obtain ⟨rfl, path, out, shown, there, alone, whole⟩ := attach_eq_ok attached
  refine ⟨raw, image, path, out, read, shown, by rw [kept]; exact there, ?_⟩
  exact {
    loaded := loaded
    index := rfl
    count := Store.count_append ..
    algorithm := chosen
    digest := computed
    signature := ⟨i, certificate, made_of_signatureOver signs⟩
    detached := alone
    combined := whole }

end Configuration

end ImageSigning
