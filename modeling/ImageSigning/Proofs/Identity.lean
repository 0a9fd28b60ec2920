import ImageSigning.Proofs.Defects
import ImageSigning.Proofs.Session

/-!
# What an identity is made from

An identity is made from the file of a certificate and a key, in a file or on a token. Whether there is
one depends on the files and the provider alone. Loading looks into the certificate's key and shows its
subject before anything is signed, and both are done outside of what reports are written for; so are the
version of the certificate and the algorithm of a private key that stands as text.

* **`IdentityRequest.Oddity`** — why an identity cannot be had, without a report.
* **`Identity.load_defectsIn`** — there is no other reason while it is loaded.
* **`Identity.load_spec`** — what was found in an identity that was loaded.
* **`Identity.load_files_gives`** — the identity from key files, as a function of the files.
* **`Identity.use_files`** — a block with it is reached.
-/

namespace ImageSigning

open Run

/-- The certificate that a request names. -/
def IdentityRequest.HasCertificate (r : IdentityRequest) (fs : FileSystem) (c : Certificate) : Prop :=
  ∃ path, r.certificate = .text path ∧ InputFile.certificate fs path = .ok c

/-- What is odd about the files that an identity is to be made from, so that there is none and no
report. -/
inductive IdentityRequest.Oddity (r : IdentityRequest) (fs : FileSystem)
    (environment : List (String × String)) : Defect → Prop
  /-- The path of the certificate or the key is too long. -/
  | path {path : String} {d : Defect} (named : r.certificate = .text path ∨ r.key = .text path)
      (far : InputFile.IsUnreachable fs path d) : Oddity r fs environment d
  /-- The path of the engine's module is. -/
  | module {e : Engine} {path : String} {d : Defect} (asked : r.AsksFor environment (.token e))
      (named : Engine.given e.module = some path) (far : InputFile.IsUnreachable fs path d) :
      Oddity r fs environment d
  /-- The certificate is of a version that does not exist. -/
  | version {path : String} {b : Bytes} (named : r.certificate = .text path)
      (held : InputFile.octets fs .certificate path = .ok b)
      (refused : Certificate.ofFile b = .error (.certificate .unknownVersion)) :
      Oddity r fs environment (.certificate .unknownVersion)
  /-- The private key stands as text and is of a kind that is not known. -/
  | privateKey {path : String} {b : Bytes} (named : r.key = .text path)
      (held : InputFile.octets fs .privateKey path = .ok b)
      (refused : PrivateKey.ofPem r.password b = .error .unsupported) :
      Oddity r fs environment .unsupportedPrivateKey
  /-- The certificate's key is malformed or of a kind that is not known. -/
  | publicKey {c : Certificate} {p : PublicKeyProblem} (held : r.HasCertificate fs c)
      (refused : c.publicKey = .error p) : Oddity r fs environment (.publicKey p)
  /-- The certificate's subject cannot be shown. -/
  | subject {c : Certificate} {q : NameProblem} (held : r.HasCertificate fs c)
      (unshown : c.subject.show = .error q) : Oddity r fs environment (.name q)

/-- Attributes that name a key. -/
def KeyReference.IsNamed (attributes : Attributes) : Prop :=
  (attributes.lookup idName).isSome = true ∨ (attributes.lookup labelName).isSome = true

/-- A reference that is read names a key. -/
theorem KeyReference.isNamed_of_attributes {reference : String} {found : Attributes}
    (h : attributes reference = .ok found) : IsNamed found := by
  unfold attributes at h
  split at h
  · obtain rfl := Except.ok.inj h
    exact .inr (by simp)
  · dsimp only at h
    split at h
    · rename_i named
      obtain rfl := Except.ok.inj h
      simpa [IsNamed] using named
    · cases h

/-- A key that can be asked for a signature: a token key is named, and its provider is in session and the
one that token keys are routed through. -/
def SigningKey.IsReady (w : World) : SigningKey → Prop
  | inMemory _ => True
  | onToken n attributes _ =>
    w.IsOpen n ∧ w.registered = some n ∧ KeyReference.IsNamed attributes

/-- A key that can sign can still do so after what is quiet. -/
theorem SigningKey.IsReady.of_quiet {key : SigningKey} {w w' : World} (h : key.IsReady w)
    (quiet : ∀ n, World.IsQuiet n w w') : key.IsReady w' := by
  cases key with
  | inMemory _ => trivial
  | onToken n attributes _ =>
    obtain ⟨opened, routed, named⟩ := h
    exact ⟨(quiet n).isOpen opened, (quiet n).registered.trans routed, named⟩

/-- A certificate's key is described if it can be read and the subject can be shown. -/
theorem Certificate.of_keySummary {c : Certificate} {s : KeySummary} (h : c.keySummary = .ok s) :
    (∃ key, c.publicKey = .ok key) ∧ ∃ t, c.subject.show = .ok t := by
  unfold keySummary at h
  obtain ⟨known, isKnown, h⟩ := Outcome.bind_eq_ok.1 h
  obtain ⟨subject, shown, -⟩ := Outcome.bind_eq_ok.1 h
  exact ⟨⟨known, Outcome.mapError_eq_ok.1 isKnown⟩, subject, Outcome.mapError_eq_ok.1 shown⟩

/-- Describing a key fails at the key or at the name of its subject. -/
theorem Certificate.keySummary_defect {c : Certificate} {d : Defect} (h : c.keySummary = .error d) :
    (∃ q, c.publicKey = .error q ∧ d = .publicKey q) ∨
      ∃ q, c.subject.show = .error q ∧ d = .name q := by
  unfold keySummary at h
  rcases Outcome.bind_eq_error.1 h with mapped | ⟨known, -, h⟩
  · obtain ⟨q, refused, rfl⟩ := Outcome.mapError_eq_error.1 mapped
    exact .inl ⟨q, refused, rfl⟩
  · rcases Outcome.bind_eq_error.1 h with mapped | ⟨subject, -, h⟩
    · obtain ⟨q, unshown, rfl⟩ := Outcome.mapError_eq_error.1 mapped
      exact .inr ⟨q, unshown, rfl⟩
    · exact (Outcome.pure_ne_error h).elim

section
variable {r : IdentityRequest} {p : Provider} {n : Nat} {w w' : World}
  {environment : List (String × String)}

namespace Provider

/-- Making a provider ready ends with a defect only at the path of a module. -/
theorem setUp_defectsIn (here : w.providers[n]? = some p) : DefectsIn (fun d =>
    ∃ e path, p = .token e ∧ Engine.given e.module = some path ∧
      InputFile.IsUnreachable w.files path d) (setUp n) w := by
  unfold setUp
  refine defectsIn_get.bind fun v w₁ got => ?_
  obtain ⟨rfl, rfl⟩ := get_eq_ok.1 got
  rw [here]
  cases p with
  | files => exact defectsIn_pure _
  | token e =>
    dsimp only
    unfold setUpEngine
    refine DefectsIn.failUnless fun _ => ?_
    refine defectsIn_get.bind fun v w₁ got => ?_
    obtain ⟨rfl, rfl⟩ := get_eq_ok.1 got
    split
    · exact defectsIn_fail _
    · refine DefectsIn.bind ?_ fun _ w₁ _ => (defectsIn_modify _).bind fun _ w₂ _ => defectsIn_tell _
      refine defectsIn_lift fun f d checked shown => ?_
      unfold checkModule at checked
      split at checked
      · cases checked
      · rename_i path named
        split at checked
        · cases checked
        · obtain rfl := Except.error.inj checked
          cases shown
        · rename_i cause failed
          obtain rfl := Except.error.inj checked
          obtain rfl := Fault.defect.inj shown
          exact ⟨e, path, rfl, named, InputFile.isUnreachable_iff.2 ⟨cause, failed, rfl⟩⟩

/-- Reading a key's file ends with a defect only at its path, or at a key of an unknown kind. -/
theorem loadFromFile_defectsIn {path : String} {format : KeyFormat} {password : Option Bytes} :
    DefectsIn (fun d => InputFile.IsUnreachable w.files path d ∨
      ∃ b, InputFile.octets w.files .privateKey path = .ok b ∧
        PrivateKey.ofPem password b = .error .unsupported ∧ d = .unsupportedPrivateKey)
      (loadFromFile (.text path) format password) w := by
  unfold loadFromFile
  refine DefectsIn.failUnless fun _ => ?_
  rw [text_bind]
  refine defectsIn_get.bind fun v w₁ got => ?_
  obtain ⟨rfl, rfl⟩ := get_eq_ok.1 got
  refine DefectsIn.bind ?_ fun _ w₁ _ => defectsIn_pure _
  refine defectsIn_lift fun f d failed shown => ?_
  obtain rfl := (id shown : f = .defect d)
  rcases InputFile.privateKey_eq_defect.1 failed with far | ⟨b, held, -, refused, rfl⟩
  · exact .inl far
  · exact .inr ⟨b, held, refused, rfl⟩

/-- A key that is read is kept in memory, and is ready at any time. -/
theorem isReady_of_loadFromFile {path : Value} {format : KeyFormat} {password : Option Bytes}
    {key : SigningKey} {v : World} (h : loadFromFile path format password w = (.ok key, w')) :
    key.IsReady v := by
  unfold loadFromFile at h
  obtain ⟨-, h⟩ := failUnless_eq_ok.1 h
  obtain ⟨path, w₁, -, h⟩ := bind_eq_ok.1 h
  obtain ⟨v, w₂, -, h⟩ := bind_eq_ok.1 h
  obtain ⟨k, w₃, -, h⟩ := bind_eq_ok.1 h
  obtain ⟨rfl, -⟩ := pure_eq_ok.1 h
  trivial

section
variable {c : Certificate}

/-- What is odd about a key's file is odd about the request. -/
theorem loadFromFile_oddity {key : String} {format : KeyFormat} (keyText : r.key = .text key) :
    DefectsIn (r.Oddity w.files environment) (loadFromFile r.key format r.password) w := by
  rw [keyText]
  refine loadFromFile_defectsIn.mono ?_
  rintro d (far | ⟨b, held, refused, rfl⟩)
  · exact .path (.inr keyText) far
  · exact .privateKey keyText held refused

/-- A provider loads a key unless something is odd about its file or the certificate's key. -/
theorem loadKey_oddity {key : String} (keyText : r.key = .text key) (held : r.HasCertificate w.files c) :
    DefectsIn (r.Oddity w.files environment)
      ((p.source n).loadKey r.key r.format c r.password) w := by
  cases p with
  | files => exact loadFromFile_oddity keyText
  | token e =>
    change DefectsIn _ (loadFromToken n r.key r.format c r.password) w
    unfold loadFromToken
    refine DefectsIn.ite (fun _ => loadFromFile_oddity keyText) fun _ => ?_
    refine DefectsIn.bind ?_ fun known w₁ _ => ?_
    · refine defectsIn_lift fun q d failed shown => ?_
      obtain rfl := Fault.defect.inj shown
      exact .publicKey held failed
    · rw [keyText]
      change DefectsIn _ (pure key >>= _) w₁
      refine (defectsIn_pure key).bind fun _ w₂ _ => ?_
      exact (defectsIn_lift_failure _ _).bind fun _ w₃ _ => defectsIn_pure _

/-- A key that is loaded is ready while its provider can be used. -/
theorem isReady_of_loadKey {key : SigningKey} (usable : IsUsable p n w)
    (h : (p.source n).loadKey r.key r.format c r.password w = (.ok key, w')) : key.IsReady w := by
  cases p with
  | files => exact isReady_of_loadFromFile h
  | token e =>
    change loadFromToken n r.key r.format c r.password w = (.ok key, w') at h
    unfold loadFromToken at h
    split at h
    · exact isReady_of_loadFromFile h
    · obtain ⟨known, w₁, -, h⟩ := bind_eq_ok.1 h
      obtain ⟨text, w₂, -, h⟩ := bind_eq_ok.1 h
      obtain ⟨attributes, w₃, read, h⟩ := bind_eq_ok.1 h
      obtain ⟨rfl, -⟩ := pure_eq_ok.1 h
      rcases usable with other | ⟨opened, routed⟩
      · cases other
      · exact ⟨opened, routed, KeyReference.isNamed_of_attributes (lift_eq_ok.1 read).1⟩

end

end Provider

namespace Identity

/-- Loading an identity ends with a defect only if something is odd about what it is made from. -/
theorem load_defectsIn {certificate key : String} (certificateText : r.certificate = .text certificate)
    (keyText : r.key = .text key) :
    DefectsIn (r.Oddity w.files environment) (load (p.source n) r) w := by
  unfold load
  rw [certificateText, text_bind]
  refine defectsIn_get.bind fun v w₁ got => ?_
  obtain ⟨rfl, rfl⟩ := get_eq_ok.1 got
  refine DefectsIn.bind ?_ fun c w₁ lifted => ?_
  · refine defectsIn_lift fun f d failed shown => ?_
    obtain rfl := (id shown : f = .defect d)
    rcases InputFile.certificate_eq_defect.1 failed with far | ⟨b, held, refused, rfl⟩
    · exact .path (.inl certificateText) far
    · exact .version certificateText held refused
  · obtain ⟨found, rfl⟩ := lift_eq_ok.1 lifted
    have held : r.HasCertificate w.files c := ⟨certificate, certificateText, found⟩
    refine (Provider.loadKey_oddity keyText held).bind fun k w₁ _ => ?_
    refine DefectsIn.bind ?_ fun s w₂ _ => (defectsIn_tell _).bind fun _ w₃ _ => defectsIn_pure _
    refine defectsIn_lift fun x d failed shown => ?_
    obtain rfl := Fault.defect.inj shown
    rcases c.keySummary_defect failed with ⟨q, refused, rfl⟩ | ⟨q, unshown, rfl⟩
    · exact .publicKey held refused
    · exact .subject held unshown

/-- What was found in an identity that was loaded. -/
structure IsFound (r : IdentityRequest) (fs : FileSystem) (i : Identity) : Prop where
  certificate : r.HasCertificate fs i.certificate
  publicKey : ∃ key, i.certificate.publicKey = .ok key
  subject : ∃ t, i.certificate.subject.show = .ok t

/-- The identity that is opened is the one that was asked for, and its key can sign. -/
theorem load_spec {i : Identity} (usable : Provider.IsUsable p n w)
    (h : load (p.source n) r w = (.ok i, w')) : IsFound r w.files i ∧ i.key.IsReady w' := by
  have quiet (m : Nat) : World.IsQuiet m w w' := (load_quiet p n r).of_eq h
  unfold load at h
  obtain ⟨path, w₁, taken, h⟩ := bind_eq_ok.1 h
  obtain ⟨named, rfl⟩ := text_eq_ok.1 taken
  obtain ⟨v, w₂, got, h⟩ := bind_eq_ok.1 h
  obtain ⟨rfl, rfl⟩ := get_eq_ok.1 got
  obtain ⟨c, w₃, lifted, h⟩ := bind_eq_ok.1 h
  obtain ⟨found, rfl⟩ := lift_eq_ok.1 lifted
  obtain ⟨key, w₄, loaded, h⟩ := bind_eq_ok.1 h
  obtain ⟨summary, w₅, lifted', h⟩ := bind_eq_ok.1 h
  obtain ⟨described, -⟩ := lift_eq_ok.1 lifted'
  obtain ⟨_, w₆, -, h⟩ := bind_eq_ok.1 h
  obtain ⟨rfl, rfl⟩ := pure_eq_ok.1 h
  obtain ⟨known, shown⟩ := Certificate.of_keySummary described
  have ready : key.IsReady w := Provider.isReady_of_loadKey usable loaded
  exact ⟨⟨⟨path, named, found⟩, known, shown⟩, ready.of_quiet quiet⟩

/-! ## Key files -/

/-- The identity that is made from key files. -/
def ofFiles (r : IdentityRequest) (fs : FileSystem) (certificate key : String) :
    Except Fault Identity := do
  let c ← InputFile.certificate fs certificate
  let k ← InputFile.privateKey fs key r.format.name r.password
  let _ ← c.keySummary.mapError .defect
  return ⟨.inMemory k, c, .file, r.key.display⟩

/-- Loading from key files gives that identity. -/
theorem load_files_gives {fs : FileSystem} {certificate key : String}
    (certificateText : r.certificate = .text certificate) (keyText : r.key = .text key)
    (format : r.format ≠ .engine) :
    Gives fs (load (Provider.files.source n) r) (ofFiles r fs certificate key) := by
  unfold load ofFiles
  rw [certificateText, text_bind]
  refine gives_files fun v here => ?_
  rw [here]
  refine (gives_lift_id _).bind fun c => ?_
  have file : Gives fs (Provider.loadFromFile r.key r.format r.password)
      (InputFile.privateKey fs key r.format.name r.password >>= fun k =>
        pure (.inMemory k)) := by
    unfold Provider.loadFromFile
    rw [if_neg format, keyText, text_bind]
    refine gives_files fun v here => ?_
    rw [here]
    exact (gives_lift_id _).bind fun k => gives_pure _
  rcases read : InputFile.privateKey fs key r.format.name r.password with f | k
  · rw [read] at file
    exact file.stop
  · rw [read] at file
    refine file.seq ((gives_lift _ _).bind fun summary => ?_)
    exact (gives_tell _).seq (gives_pure _)

/-- A block with an identity from key files goes on from the same files, whatever it comes to. -/
theorem use_files {α : Type} {block : Identity → Run α} (origin : r.origin = .files)
    (format : r.format ≠ .engine)
    (within : ∀ n i, i.key.IsOf n → Leaves (World.StaysWithin n) (block i)) :
    ∃ n w₁ w₂ o w', use r block w = (o, w') ∧ w₁.files = w.files ∧
      (load (Provider.files.source n) r >>= block) w₁ = (o, w₂) := by
  have notGiven (s : KeySource) : r.origin ≠ .given s := by simp [origin]
  have only {p : Provider} (asked : r.AsksFor w.environment p) : p = .files := by
    rcases asked with ⟨-, rfl⟩ | ⟨_, _, other, -⟩
    · rfl
    · rw [origin] at other
      cases other
  rcases ran : use r block w with ⟨o, w'⟩
  obtain ⟨-, ⟨g, rfl, -, failed | ⟨p, n, w₁, asked, here, -, failed⟩⟩ |
    ⟨p, n, w₁, w₂, asked, same, -, ran', -⟩⟩ := use_cases notGiven within ran
  · rcases provider_cases notGiven failed with
      ⟨_, -, -, ⟨engine, -⟩ | ⟨_, _, other, -⟩⟩ | ⟨_, other, -⟩
    · exact (format engine).elim
    · rw [origin] at other
      cases other
    · cases other
  · obtain rfl := only asked
    unfold Provider.setUp at failed
    rw [bind_of_ok (get_eq_ok.2 ⟨rfl, rfl⟩), here] at failed
    cases failed
  · obtain rfl := only asked
    exact ⟨n, w₁, w₂, o, w', rfl, same, ran'⟩

end Identity

end

end ImageSigning
