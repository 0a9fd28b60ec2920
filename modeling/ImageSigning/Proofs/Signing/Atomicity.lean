import ImageSigning.Proofs.Signing.Runs
import ImageSigning.Proofs.Signing.Stages

/-!
# A run is all or nothing

A run writes one file, and that is the last thing in it that can go wrong. What comes before it is quiet,
what comes after it closes the session of the provider that the run made. So a run that fails leaves the
files as they were, however far it came, and one that succeeds leaves one place changed. Neither leaves a
session behind, nor token keys that are routed through a provider of its own.

* **`Configuration.attach_cases`** — the signature is written, or nothing changes.
* **`Configuration.body_cases`** — so it is with all that a run does with an identity.
* **`Configuration.IsWritten`** — what a run has written that succeeded.
* **`Configuration.sign_allOrNothing`** — for every configuration, in all surroundings.
-/

namespace ImageSigning

open Run

section
variable {n : Nat} {w w' : World}

/-! ## Writing leaves the providers alone -/

/-- Writing a file changes neither the providers nor which one is registered. -/
theorem writeFile_within (path : String) (b : Bytes) :
    Leaves (World.StaysWithin n) (writeFile path b) := by
  refine ⟨fun w => ?_⟩
  unfold writeFile
  rw [bind_of_ok (get_eq_ok.2 ⟨rfl, rfl⟩)]
  dsimp only
  rcases w.files.replace path b with ⟨⟨_ | _⟩ | ⟨⟩, files⟩
  all_goals exact ⟨rfl, rfl, fun _ _ => rfl, rfl⟩

/-- Writing an image changes neither the providers nor which one is registered. -/
theorem Image.writeTo_within (image : Image) (detached : Bool) (v : Value) :
    Leaves (World.StaysWithin n) (image.writeTo detached v) := by
  have told (e : Event) (k : Nat) :
      Leaves (World.StaysWithin n) (tell e >>= fun _ => (pure k : Run Nat)) :=
    (tell_quiet e).within.bind fun _ => leaves_pure k
  unfold writeTo
  split
  · unfold write writeCombined writeDetached
    refine Leaves.ite ?_ ?_
    · split
      · exact leaves_fail _
      · refine Leaves.bind ?_ fun _ => told _ _
        split
        · exact leaves_fail _
        · exact writeFile_within ..
    · refine Leaves.bind ?_ fun _ => told _ _
      exact (leaves_lift _ _).bind fun out => writeFile_within ..
  · refine Leaves.ite ?_ (leaves_defect _)
    refine Leaves.bind ?_ fun _ => leaves_defect _
    exact (leaves_lift _ _).bind fun _ => leaves_pure _

end

namespace Configuration

variable {c : Configuration} {image : Image} {s : Signature} {n : Nat} {w w' : World}

/-! ## What a run does with an identity -/

/-- The signature was written where the configuration says, by itself or with the image. -/
def IsWritten (c : Configuration) (image : Image) (s : Signature) (before after : FileSystem) : Prop :=
  ∃ path target out, c.outputPath = .text path ∧ before.IsPut after path out target ∧
    ((c.get .detached).isSet = true → out = s.der) ∧
    ((c.get .detached).isSet = false → (image.append (.decoded s)).toBytes = .ok out)

/-- Adding a signature writes the result, or changes no file. -/
theorem attach_cases {o : Except Fault Image} (h : c.attach image s w = (o, w')) :
    (∃ f, o = .error f ∧ w'.files = w.files) ∨
    (o = .ok (image.append (.decoded s)) ∧ c.IsWritten image s w.files w'.files) := by
  have quiet : IsQuiet 0 (image.signatures.report (.decoded s)) :=
    (leaves_lift _ _).bind fun e => tell_quiet e
  unfold attach at h
  rcases bind_cases h with ⟨f, rfl, failed⟩ | ⟨_, w₁, reported, h⟩
  · exact .inl ⟨f, rfl, (quiet.of_eq failed).files⟩
  · have same := (quiet.of_eq reported).files
    rcases bind_cases h with ⟨f, rfl, failed⟩ | ⟨_, w₂, written, h⟩
    · rcases bind_cases failed with ⟨_, -, failed⟩ | ⟨_, w₂, -, other⟩
      · rcases Image.writeTo_cases failed with ⟨_, -, rfl⟩ | ⟨_, _, _, _, here, -⟩
        · exact .inl ⟨f, rfl, same⟩
        · cases here
      · cases other
    · obtain ⟨rfl, rfl⟩ := Prod.mk.inj h
      obtain ⟨k, w₃, first, rest⟩ := bind_eq_ok.1 written
      obtain ⟨-, rfl⟩ := pure_eq_ok.1 rest
      rcases Image.writeTo_cases first with ⟨_, here, -⟩ | ⟨_, path, out, target, -, parts⟩
      · cases here
      · rw [same] at parts
        exact .inr ⟨rfl, path, target, out, parts⟩

/-- Attaching a signature changes neither the providers nor which one is registered. -/
theorem attach_within : Leaves (World.StaysWithin n) (c.attach image s) := by
  unfold attach Store.report
  refine Leaves.bind ((leaves_lift _ _).bind fun e => (tell_quiet e).within) fun _ => ?_
  refine Leaves.bind ?_ fun _ => leaves_pure _
  exact (Image.writeTo_within ..).bind fun _ => leaves_pure _

/-- Signing a digest with a key of a provider of one's own is quiet. -/
theorem signatureOver_quiet {d : Digest} {i : Identity} (own : i.key.IsOf n) :
    IsQuiet n (c.signatureOver d i) := by
  unfold signatureOver
  refine (Signature.build_quiet own d).bind fun s => Leaves.ite ?_ (leaves_pure _)
  exact (leaves_text _).bind fun path => Signature.augment_quiet ..

/-- What a run does with an identity of its own provider leaves the other providers alone. -/
theorem body_within {a : DigestAlgorithm} {i : Identity} (own : i.key.IsOf n) :
    Leaves (World.StaysWithin n) (c.body image a i) := by
  unfold body
  refine (Image.digest_quiet ..).within.bind fun d => (tell_quiet _).within.bind fun _ => ?_
  refine (signatureOver_quiet own).within.bind fun s => ?_
  exact attach_within.bind fun _ => leaves_pure _

/-- With an identity a run writes its signature, or changes no file. -/
theorem body_cases {a : DigestAlgorithm} {i : Identity} (own : i.key.IsOf n)
    {o : Except Fault (Digest × Signature × Image)} (h : c.body image a i w = (o, w')) :
    (∃ f, o = .error f ∧ w'.files = w.files) ∨
    ∃ d s signed, o = .ok (d, s, signed) ∧ c.IsWritten image s w.files w'.files := by
  have digest : IsQuiet n (image.digest a) := Image.digest_quiet ..
  unfold body at h
  rcases bind_cases h with ⟨f, rfl, failed⟩ | ⟨d, w₁, digested, h⟩
  · exact .inl ⟨f, rfl, (digest.of_eq failed).files⟩
  have same := (digest.of_eq digested).files
  rw [bind_of_ok (tell_eq _ _)] at h
  rcases bind_cases h with ⟨f, rfl, failed⟩ | ⟨s, w₂, signed, h⟩
  · exact .inl ⟨f, rfl, ((signatureOver_quiet own).of_eq failed).files.trans same⟩
  have same' : w₂.files = w.files := ((signatureOver_quiet own).of_eq signed).files.trans same
  rcases bind_cases h with ⟨f, rfl, failed⟩ | ⟨m, w₃, attached, h⟩
  · rcases attach_cases failed with ⟨_, -, still⟩ | ⟨here, -⟩
    · exact .inl ⟨f, rfl, still.trans same'⟩
    · cases here
  · obtain ⟨rfl, rfl⟩ := Prod.mk.inj h
    rcases attach_cases attached with ⟨_, here, -⟩ | ⟨-, written⟩
    · cases here
    · rw [same'] at written
      exact .inr ⟨d, s, m, rfl, written⟩

/-- With the identity that is asked for, a run writes its signature or changes no file, and it closes
the provider that was made for it. -/
theorem use_body_cases {a : DigestAlgorithm} {r : IdentityRequest}
    {o : Except Fault (Digest × Signature × Image)} (notGiven : ∀ s, r.origin ≠ .given s)
    (h : Identity.use r (c.body image a) w = (o, w')) : w.KeepsProviders w' ∧
      ((∃ f, o = .error f ∧ w'.files = w.files) ∨
        ∃ d s signed, o = .ok (d, s, signed) ∧ c.IsWritten image s w.files w'.files) := by
  obtain ⟨kept, left⟩ := Identity.use_cases notGiven (fun n i own => body_within own) h
  refine ⟨kept, ?_⟩
  rcases left with ⟨f, rfl, same, -⟩ | ⟨p, n, w₁, w₂, -, same, -, ran, left⟩
  · exact .inl ⟨f, rfl, same⟩
  · rw [left]
    have quiet : IsQuiet n (Identity.load (p.source n) r) := Identity.load_quiet ..
    rcases bind_cases ran with ⟨f, rfl, failed⟩ | ⟨i, w₃, loaded, ran⟩
    · exact .inl ⟨f, rfl, (quiet.of_eq failed).files.trans same⟩
    · have same' : w₃.files = w.files := (quiet.of_eq loaded).files.trans same
      rw [← same']
      exact body_cases (Identity.isOf_of_load loaded) ran

/-! ## The run -/

/-- A run leaves providers as it has to, and writes its signature or changes no file. -/
theorem sign_cases {o : Except Fault SigningResult} (h : c.sign w = (o, w')) :
    w.KeepsProviders w' ∧ ((∃ f, o = .error f ∧ w'.files = w.files) ∨
      ∃ r image, o = .ok r ∧ Image.loaded w.files (c.get .image).display = .ok image ∧
        c.IsWritten image r.signature w.files w'.files) := by
  rcases sign_stages h with ⟨f, rfl, -, quiet⟩ | ⟨a, image, r, w₁, o', found, quiet, used, rfl⟩
  · exact ⟨World.keepsProviders_of_quiet quiet, .inl ⟨f, rfl, (quiet 0).files⟩⟩
  · obtain ⟨-, -, loaded, asked⟩ := prepared_eq_ok.1 found
    obtain ⟨kept, left⟩ := use_body_cases (origin_ne_given asked) used
    refine ⟨kept.of_quiet quiet, ?_⟩
    rcases left with ⟨f, rfl, same⟩ | ⟨d, s, signed, rfl, written⟩
    · exact .inl ⟨f, rfl, same.trans (quiet 0).files⟩
    · rw [(quiet 0).files] at written
      exact .inr ⟨_, image, rfl, loaded, written⟩

/-- **All or nothing.** A run that fails leaves the files as they were. One that succeeds puts the new
signature, or the image that was loaded with it, where the configuration says, and leaves everything else:
what stood elsewhere stands there still, and what a path found elsewhere it finds still. Either way the
providers that were there are as they were, those that the run made have no session, and token keys are
routed as before or not at all.

The surroundings are those of `World`: a tool changes no file but its output, where it leaves a file or
nothing (`ToolOutcome`), and a private directory can always be made and removed (`Provider.setUpEngine`,
`Provider.shutDownEngine`). -/
theorem sign_allOrNothing (c : Configuration) (w : World) :
    (∀ f w', c.sign w = (.error f, w') → w'.files = w.files) ∧
    (∀ r w', c.sign w = (.ok r, w') → ∃ image path target out,
      Image.loaded w.files (c.get .image).display = .ok image ∧ c.outputPath = .text path ∧
      w.files.IsPut w'.files path out target ∧
      ((c.get .detached).isSet = true → out = r.signature.der) ∧
      ((c.get .detached).isSet = false → (image.append (.decoded r.signature)).toBytes = .ok out) ∧
      (∀ l, l ≠ target → w'.files.lookup l = w.files.lookup l) ∧
      ∀ path' place found, place ≠ target →
        w.files.find path' = .ok (.present place found) →
        w'.files.find path' = .ok (.present place found)) ∧
    ∀ o w', c.sign w = (o, w') →
      (∃ made, w'.providers = w.providers ++ made ∧ ∀ p ∈ made, p.isOpen = false) ∧
      w'.sessions = w.sessions ∧ (w'.registered = w.registered ∨ w'.registered = none) ∧
      ∀ n, w.providers.length ≤ n → w'.registered = some n → w.registered = some n := by
  refine ⟨fun f w' h => ?_, fun r w' h => ?_, fun o w' h => ?_⟩
  · obtain ⟨-, ⟨_, -, same⟩ | ⟨_, _, here, -⟩⟩ := sign_cases h
    · exact same
    · cases here
  · obtain ⟨-, ⟨_, here, -⟩ | ⟨r', image, here, found, path, target, out, shown, put, alone, whole⟩⟩ :=
      sign_cases h
    · cases here
    · obtain rfl := Except.ok.inj here
      refine ⟨image, path, target, out, found, shown, put, alone, whole, ?_, ?_⟩
      · exact fun l other => put.lookup other
      · exact fun path' place found other => put.find other
  · obtain ⟨kept, -⟩ := sign_cases h
    refine ⟨kept.1, kept.sessions, kept.2, ?_⟩
    intro n _ routed
    rcases kept.2 with same | unrouted
    · rw [← same, routed]
    · rw [unrouted] at routed
      cases routed

/-- The short run puts its output in the working directory, and the three files that were there stay. -/
theorem sign_allOrNothing_shortRun : ∃ r w' target,
    (shortRun "i" "o").sign shortSurroundings = (.ok r, w') ∧
    shortSurroundings.files.LeadsTo "o" target ∧ w'.sessions = 0 ∧
    ∀ l, l ≠ target → w'.files.lookup l = shortSurroundings.files.lookup l := by
  obtain ⟨r, s, w₁, w₂, ran, -, -, -⟩ := exists_sign_of_signsTwice signsTwice_shortRun
  obtain ⟨-, succeeds, inAnyCase⟩ := sign_allOrNothing (shortRun "i" "o") shortSurroundings
  obtain ⟨image, path, target, out, -, shown, put, -, -, elsewhere, -⟩ := succeeds r w₁ ran
  obtain rfl := Value.text.inj (shortRun_paths.1.symm.trans shown)
  obtain ⟨-, sessions, -, -⟩ := inAnyCase _ _ ran
  exact ⟨r, w₁, target, ran, put.leads, sessions, elsewhere⟩

end Configuration

end ImageSigning
