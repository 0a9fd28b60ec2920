import ImageSigning.Proofs.Opening
import ImageSigning.Proofs.Signing.Reporting

/-!
# When the configuration is to blame

The settings are checked before any file is opened, and what the check refuses is refused in all
surroundings alike. Opening the identity looks at some of them once more, after the image was loaded. So a
setting that the check lets pass can still be blamed, and there are two of the kind: an engine with an
empty name, which the check takes for none and the identity for one that is unknown, and a reference to a
token key that names none, which the check does not read. Nothing else in a run blames the configuration.

* **`Configuration.PassesOver`** — the problems that the check lets pass.
* **`Configuration.refusedWith_iff`** — an identity is refused for these alone.
* **`Configuration.sign_endsWith`** — so is a run, where the image can be loaded.
* **`Configuration.IsDecided`** — settings with nothing of the kind.
* **`Configuration.sign_configuration`** — when a run blames the configuration.
-/

namespace ImageSigning

open Run

namespace Configuration

variable {c : Configuration} {fs : FileSystem} {environment : List (String × String)} {w : World}
  {r : IdentityRequest} {p : ConfigurationProblem}

/-- What a run does with an identity blames no setting. -/
theorem acceptsSettings_body (image : Image) (a : DigestAlgorithm) (i : Identity) :
    AcceptsSettings (c.body image a i) := by
  have digest : AcceptsSettings (image.digest a) := by
    refine AcceptsSettings.bind ?_ fun d => (acceptsSettings_tell _).bind fun _ => acceptsSettings_pure d
    exact acceptsSettings_lift fun e p _ => by simp
  have signing (d : Digest) : AcceptsSettings (c.signatureOver d i) := by
    refine (Signature.acceptsSettings_build i d).bind fun s => ?_
    refine AcceptsSettings.ite ?_ (acceptsSettings_pure s)
    exact (acceptsSettings_text _).bind fun path => Signature.acceptsSettings_augment s path
  have attached (s : Signature) : AcceptsSettings (c.attach image s) := by
    refine AcceptsSettings.bind ?_ fun _ => AcceptsSettings.bind ?_ fun _ => acceptsSettings_pure _
    · exact (acceptsSettings_lift_defect _ _).bind fun e => acceptsSettings_tell e
    · exact (Image.acceptsSettings_writeTo _ _ _).bind fun _ => acceptsSettings_pure _
  refine digest.bind fun d => (acceptsSettings_tell _).bind fun _ => (signing d).bind fun s => ?_
  exact (attached s).bind fun _ => acceptsSettings_pure _

/-! ## What the check lets pass -/

/-- A configuration that is valid has passed the check of its engine. -/
theorem checkEngine_of_validate (valid : c.validate = .ok ()) : c.checkEngine = .ok () := by
  unfold validate at valid
  obtain ⟨_, -, valid⟩ := Outcome.bind_eq_ok.1 valid
  obtain ⟨_, -, valid⟩ := Outcome.bind_eq_ok.1 valid
  obtain ⟨_, -, valid⟩ := Outcome.bind_eq_ok.1 valid
  obtain ⟨_, -, valid⟩ := Outcome.bind_eq_ok.1 valid
  obtain ⟨-, valid⟩ := Outcome.failUnless_eq_ok.1 valid
  obtain ⟨⟨⟩, checked, -⟩ := Outcome.bind_eq_ok.1 valid
  exact checked

/-- An engine that counts as given has a known name once it was checked. -/
theorem isNameInAnyCase_of_checkEngine {name : String} (checked : c.checkEngine = .ok ())
    (given : (c.get .engine).isSet = true) (named : c.engineName = .ok (some name)) :
    Text.isNameInAnyCase KeyProblem.engineName name = true := by
  unfold checkEngine at checked
  rw [if_pos given, named] at checked
  by_contra unknown
  change (if _ then throw _ else pure _ : Except Fault Unit) = _ at checked
  rw [if_pos (by simpa using unknown)] at checked
  cases checked

/-- An engine with a name that does not count as given has an empty one. -/
theorem get_engine_of_empty {name : String} (named : c.engineName = .ok (some name))
    (empty : (c.get .engine).isSet = false) :
    (c.get .engine = .text "" ∧ name = "") ∨
      (c.get .engine = .octets [] ∧ name = (Value.octets []).display) := by
  unfold engineName at named
  split at named
  · cases named
  · rename_i s text
    obtain rfl := Option.some.inj (Except.ok.inj named)
    rw [text] at empty
    have nothing : s = "" := by simpa [Value.isSet] using empty
    rw [text, nothing]
    exact .inl ⟨rfl, rfl⟩
  · rename_i b octets
    obtain rfl := Option.some.inj (Except.ok.inj named)
    rw [octets] at empty
    have nothing : b = [] := by simpa [Value.isSet] using empty
    rw [octets, nothing]
    exact .inr ⟨rfl, rfl⟩
  · cases named

/-- An engine's name that does not count as given is not known. -/
theorem isNameInAnyCase_of_empty {name : String} (named : c.engineName = .ok (some name))
    (empty : (c.get .engine).isSet = false) :
    Text.isNameInAnyCase KeyProblem.engineName name = false := by
  rcases get_engine_of_empty named empty with ⟨-, rfl⟩ | ⟨-, rfl⟩
  · decide
  · decide +kernel

/-- The problems of a configuration that its check lets pass. -/
inductive PassesOver (c : Configuration) (fs : FileSystem) (environment : List (String × String)) :
    ConfigurationProblem → Prop
  /-- The engine's name is empty. -/
  | unknownEngine {name : String} (named : c.engineName = .ok (some name))
      (empty : (c.get .engine).isSet = false) : PassesOver c fs environment (.unknownEngine name)
  /-- The reference to a token key names no key, and the engine and the certificate are there. -/
  | unnamedKey {name path reference tool : String} {e : Engine} {certificate : Certificate}
      {key : PublicKey} {p : ConfigurationProblem} (format : c.keyFormat = .ok .engine)
      (named : c.engineName = .ok (some name))
      (provides : Provider.ofName (some name) c.engineOptions environment = .ok (.token e))
      (ready : Provider.readiness e fs environment = .ok tool)
      (certificateText : c.get .certificate = .text path)
      (held : InputFile.certificate fs path = .ok certificate)
      (known : certificate.publicKey = .ok key) (keyText : c.get .key = .text reference)
      (unnamed : KeyReference.attributes reference = .error p) : PassesOver c fs environment p

/-- If a key comes out of files, no engine is given. -/
theorem origin_eq_files (files : c.origin = .ok .files) : c.get .engine = .null := by
  obtain ⟨_ | name, named, same⟩ := Outcome.map_eq_ok.1 files
  · unfold engineName at named
    split at named
    · assumption
    all_goals cases named
  · cases same

/-- A key comes out of an engine exactly if that engine is named. -/
theorem origin_eq_engine {name : String} : c.origin = .ok (.engine name c.engineOptions) ↔
    c.engineName = .ok (some name) := by
  unfold origin
  rw [Outcome.map_eq_ok]
  constructor
  · rintro ⟨_ | other, named, same⟩
    · cases same
    · injection same with same
      rw [named, same]
  · intro named
    exact ⟨some name, named, rfl⟩

/-- Once the settings are checked, an identity is refused exactly for what the check let pass. -/
theorem refusedWith_iff (valid : c.validate = .ok ()) (asked : c.identityRequest = .ok r) :
    r.RefusedWith fs environment p ↔ c.PassesOver fs environment p := by
  obtain ⟨sameKey, sameCertificate, -, formatNamed, originNamed⟩ := identityRequest_eq_ok asked
  have checked := checkEngine_of_validate valid
  constructor
  · intro refused
    cases refused with
    | engineRequired files format =>
      rw [files] at originNamed
      obtain ⟨-, -, -, ⟨f, named, given⟩, -⟩ := validate_eq_ok valid
      have engine : f = .engine := (Except.ok.inj (named.symm.trans formatNamed)).trans format
      rw [origin_eq_files originNamed] at given
      cases given engine
    | unknownEngine engine unknown =>
      obtain rfl := engineOptions_of_origin originNamed engine
      rw [engine] at originNamed
      have named := origin_eq_engine.1 originNamed
      refine .unknownEngine named (Bool.eq_false_iff.2 fun given => ?_)
      rw [isNameInAnyCase_of_checkEngine checked given named] at unknown
      cases unknown
    | unnamedKey asks unnamed =>
      obtain ⟨⟨tool, ready⟩, c, ⟨path, certificateText, held⟩, format, ⟨key, known⟩, s, named,
        unnamed⟩ := unnamed
      rcases asks with ⟨-, other⟩ | ⟨name, options, engine, provides⟩
      · cases other
      obtain rfl := engineOptions_of_origin originNamed engine
      rw [engine] at originNamed
      rw [format] at formatNamed
      exact .unnamedKey formatNamed (origin_eq_engine.1 originNamed) provides ready
        (sameCertificate.symm.trans certificateText) held known (sameKey.symm.trans named) unnamed
  · intro passed
    cases passed with
    | unknownEngine named empty =>
      have engine := Except.ok.inj (originNamed.symm.trans (origin_eq_engine.2 named))
      exact .unknownEngine engine (isNameInAnyCase_of_empty named empty)
    | unnamedKey format named provides ready certificateText held known keyText unnamed =>
      have engine := Except.ok.inj (originNamed.symm.trans (origin_eq_engine.2 named))
      have format' := Except.ok.inj (formatNamed.symm.trans format)
      exact .unnamedKey (.inr ⟨_, _, engine, provides⟩) ⟨⟨_, ready⟩, _,
        ⟨_, sameCertificate.trans certificateText, held⟩, format', ⟨_, known⟩, _,
        sameKey.trans keyText, unnamed⟩

/-- A run is prepared up to what the check refuses. -/
theorem prepared_eq_configuration : c.prepared fs = .error (.failure (.configuration p)) ↔
    c.validate = .error (.failure (.configuration p)) := by
  constructor
  · intro failed
    unfold prepared at failed
    rcases Outcome.bind_eq_error.1 failed with failed | ⟨⟨⟩, valid, failed⟩
    · exact failed
    obtain ⟨-, -, -, ⟨format, formatNamed, -⟩, algorithm, algorithmNamed⟩ := validate_eq_ok valid
    rw [algorithmNamed] at failed
    rcases Outcome.bind_eq_error.1 failed with failed | ⟨a, -, failed⟩
    · cases failed
    rcases Outcome.bind_eq_error.1 failed with failed | ⟨image, -, failed⟩
    · exact (Image.loaded_ne_configuration failed).elim
    rcases Outcome.bind_eq_error.1 failed with failed | ⟨r, -, failed⟩
    · unfold identityRequest at failed
      rw [formatNamed] at failed
      rcases Outcome.bind_eq_error.1 failed with failed | ⟨_, -, failed⟩
      · cases failed
      rcases Outcome.bind_eq_error.1 failed with failed | ⟨_, -, failed⟩
      · obtain ⟨d, -, other⟩ := Outcome.mapError_eq_error.1 failed
        cases other
      · exact (Outcome.pure_ne_error failed).elim
    · exact (Outcome.pure_ne_error failed).elim
  · intro refused
    exact Outcome.bind_eq_error.2 (.inl refused)

/-- What is passed over can be asked for. -/
theorem PassesOver.exists_identityRequest (passed : c.PassesOver fs environment p)
    (valid : c.validate = .ok ()) : ∃ r, c.identityRequest = .ok r := by
  obtain ⟨-, -, -, ⟨format, formatNamed, -⟩, -⟩ := validate_eq_ok valid
  obtain ⟨name, named⟩ : ∃ name, c.engineName = .ok (some name) := by
    cases passed with
    | unknownEngine named _ => exact ⟨_, named⟩
    | unnamedKey _ named _ _ _ _ _ _ _ => exact ⟨_, named⟩
  unfold identityRequest
  rw [formatNamed, origin_eq_engine.2 named]
  exact ⟨_, rfl⟩

/-- Settings that are refused are refused at once. -/
theorem sign_of_invalid {f : Fault} (refused : c.validate = .error f) (w : World) :
    c.sign w = (.error f, w) := by
  have failed : lift id c.validate w = (.error f, w) := by
    rw [lift_eq, refused]
    rfl
  exact bind_of_error failed

/-- A run blames the configuration exactly for what its check refuses or, where the image can be loaded,
for what the check lets pass. -/
theorem sign_endsWith : EndsWith c.sign w (.failure (.configuration p)) ↔
    c.validate = .error (.failure (.configuration p)) ∨
      (c.validate = .ok () ∧ (∃ image, Image.loaded w.files (c.get .image).display = .ok image) ∧
        c.PassesOver w.files w.environment p) := by
  have accepts (a : DigestAlgorithm) (image : Image) (i : Identity) :
      AcceptsSettings (c.body image a i) := acceptsSettings_body image a i
  constructor
  · rintro ⟨w', ran⟩
    rcases sign_stages ran with ⟨f, same, failed, -⟩ | ⟨a, image, r, w₁, o, found, quiet, used, same⟩
    · obtain rfl := Except.error.inj same
      exact .inl (prepared_eq_configuration.1 failed)
    · rcases o with f | m
      · obtain rfl := Except.error.inj same
        obtain ⟨valid, -, loaded, asked⟩ := prepared_eq_ok.1 found
        have refused := (Identity.use_endsWith_configuration (origin_ne_given asked)
          (accepts a image)).1 ⟨w', used⟩
        rw [(quiet 0).files, (quiet 0).environment] at refused
        exact .inr ⟨valid, ⟨image, loaded⟩, (refusedWith_iff valid asked).1 refused⟩
      · cases same
  · rintro (refused | ⟨valid, ⟨image, loaded⟩, passed⟩)
    · exact ⟨w, sign_of_invalid refused w⟩
    · obtain ⟨-, -, -, -, a, algorithm⟩ := validate_eq_ok valid
      obtain ⟨r, asked⟩ := passed.exists_identityRequest valid
      have prepared := prepared_eq_ok.2 ⟨valid, algorithm, loaded, asked⟩
      rcases ran : c.sign w with ⟨o, w'⟩
      rcases sign_stages ran with ⟨f, -, failed, -⟩ | ⟨a', image', r', w₁, o', found, quiet, used, rfl⟩
      · rw [prepared] at failed
        cases failed
      · obtain ⟨rfl, rest⟩ := Prod.mk.inj (Except.ok.inj (prepared.symm.trans found))
        obtain ⟨rfl, rfl⟩ := Prod.mk.inj rest
        rw [← (quiet 0).files, ← (quiet 0).environment] at passed
        obtain ⟨w₂, failed⟩ := (Identity.use_endsWith_configuration (origin_ne_given asked)
          (accepts a image)).2 ((refusedWith_iff valid asked).2 passed)
        obtain ⟨rfl, rfl⟩ := Prod.mk.inj (used.symm.trans failed)
        exact ⟨w', ran⟩

/-- Settings of which the check lets nothing pass: the engine is no empty name, and a reference to a token
key names one. -/
structure IsDecided (c : Configuration) : Prop where
  engine : c.get .engine ≠ .text "" ∧ c.get .engine ≠ .octets []
  key : c.keyFormat = .ok .engine → ∀ reference, c.get .key = .text reference →
    ∃ attributes, KeyReference.attributes reference = .ok attributes

/-- Nothing about a decided configuration is passed over at first. -/
theorem IsDecided.not_passesOver (decided : c.IsDecided) : ¬ c.PassesOver fs environment p := by
  intro passed
  cases passed with
  | unknownEngine named empty =>
    rcases get_engine_of_empty named empty with ⟨text, -⟩ | ⟨octets, -⟩
    · exact decided.engine.1 text
    · exact decided.engine.2 octets
  | unnamedKey format _ _ _ _ _ _ keyText unnamed =>
    obtain ⟨attributes, found⟩ := decided.key format _ keyText
    rw [found] at unnamed
    cases unnamed

/-- **When a run blames the configuration.** What the check refuses is refused at once, in all
surroundings alike. Otherwise a run ends with a problem of the configuration exactly if the image can be
loaded and the check let the problem pass; and so does the opening of the identity, whatever is done with
it. Of settings that are decided the check lets nothing pass, so with these a problem that a run ends with
in some surroundings is one that it ends with in all, and that changes nothing. -/
theorem sign_configuration (c : Configuration) :
    (∀ p, c.validate = .error (.failure (.configuration p)) →
      ∀ w, c.sign w = (.error (.failure (.configuration p)), w)) ∧
    (∀ w p, EndsWith c.sign w (.failure (.configuration p)) ↔
      c.validate = .error (.failure (.configuration p)) ∨
        (c.validate = .ok () ∧ (∃ image w', Image.load (c.get .image).display w = (.ok image, w')) ∧
          c.PassesOver w.files w.environment p)) ∧
    (c.validate = .ok () → ∀ r, c.identityRequest = .ok r →
      ∀ {α : Type} (block : Identity → Run α), (∀ i, AcceptsSettings (block i)) → ∀ w p,
        EndsWith (Identity.use r block) w (.failure (.configuration p)) ↔
          c.PassesOver w.files w.environment p) ∧
    (c.IsDecided → ∀ fs environment p, ¬ c.PassesOver fs environment p) ∧
    (c.IsDecided → ∀ w₁ w₂ p, EndsWith c.sign w₁ (.failure (.configuration p)) →
      c.sign w₂ = (.error (.failure (.configuration p)), w₂)) := by
  refine ⟨fun p => sign_of_invalid, fun w p => ?_, ?_, ?_, ?_⟩
  · rw [sign_endsWith]
    refine or_congr Iff.rfl (and_congr Iff.rfl (and_congr (exists_congr fun image => ?_) Iff.rfl))
    have gives : Gives w.files (Image.load (c.get .image).display)
      (Image.loaded w.files (c.get .image).display) := Image.load_gives
    constructor
    · intro loaded
      rw [loaded] at gives
      exact gives.exists_ok
    · rintro ⟨w', ran⟩
      exact (gives.eq_ok ran).1
  · intro valid r asked α block accepts w p
    rw [Identity.use_endsWith_configuration (origin_ne_given asked) accepts]
    exact refusedWith_iff valid asked
  · exact fun decided fs environment p => decided.not_passesOver
  · intro decided w₁ w₂ p failed
    rcases sign_endsWith.1 failed with refused | ⟨-, -, passed⟩
    · exact sign_of_invalid refused w₂
    · exact (decided.not_passesOver passed).elim

/-! ## Runs that are refused late -/

/-- The surroundings of the short run with a tool. -/
def tooledSurroundings : World :=
  { shortSurroundings with
    files := shortSurroundings.files.put ["t"] (.file ⟨[], 0o755, some 0⟩) }

/-- The same surroundings without the image. -/
def imagelessSurroundings : World :=
  { tooledSurroundings with files := tooledSurroundings.files.remove ["i"] }

/-- The short run with an engine that has an empty name. -/
def emptyEngineRun : Configuration := (shortRun "i" "o").set .engine (.text "")

/-- The short run with a token key that is not named. -/
def unnamedKeyRun : Configuration :=
  [(Setting.engine, "pkcs11"), (.tool, "./t"), (.keyFormat, "engine"), (.key, "pkcs11:")].foldl
    (fun c (s, v) => c.set s (.text v)) (shortRun "i" "o")

/-- The short run without a key. -/
def keylessRun : Configuration := (shortRun "i" "o").set .key .null

/-- Whether the file at a path is a certificate with a key that can be read. -/
def hasPublicKey (fs : FileSystem) (path : String) : Bool :=
  match InputFile.certificate fs path with
  | .ok certificate => certificate.publicKey.toBool
  | .error _ => false

/-- A file that has a public key holds a certificate. -/
theorem exists_publicKey_of_hasPublicKey {path : String} (h : hasPublicKey fs path = true) :
    ∃ certificate key, InputFile.certificate fs path = .ok certificate ∧
      certificate.publicKey = .ok key := by
  unfold hasPublicKey at h
  split at h
  · rename_i certificate held
    rcases known : certificate.publicKey with q | key
    · rw [known] at h
      cases h
    · exact ⟨certificate, key, held, known⟩
  · cases h

/-- The reference that names no key is passed over until the engine looks at it. -/
theorem passesOver_unnamedKeyRun :
    unnamedKeyRun.PassesOver tooledSurroundings.files [] (.unnamedKey "pkcs11:") := by
  have there : hasPublicKey tooledSurroundings.files "c" = true := by decide +kernel
  obtain ⟨certificate, key, held, known⟩ := exists_publicKey_of_hasPublicKey there
  have format : unnamedKeyRun.keyFormat = .ok .engine := by decide +kernel
  have provides : Provider.ofName (some "pkcs11") unnamedKeyRun.engineOptions []
      = .ok (.token ⟨none, none, "./t", none⟩) := by decide +kernel
  have ready : Provider.readiness ⟨none, none, "./t", none⟩ tooledSurroundings.files []
      = .ok "./t" := by
    decide +kernel
  have unnamed : KeyReference.attributes "pkcs11:" = .error (.unnamedKey "pkcs11:") := by
    decide +kernel
  exact .unnamedKey format rfl provides ready rfl held known rfl unnamed

/-- The image of the example can be loaded. -/
theorem exists_load_tooledSurroundings :
    ∃ image w', Image.load "i" tooledSurroundings = (.ok image, w') := by
  have gives : Gives tooledSurroundings.files (Image.load "i")
    (Image.loaded tooledSurroundings.files "i") := Image.load_gives
  have loads : (Image.loaded tooledSurroundings.files "i").toBool = true := by decide +kernel
  rcases found : Image.loaded tooledSurroundings.files "i" with f | image
  · rw [found] at loads
    cases loads
  · rw [found] at gives
    exact ⟨image, gives.exists_ok⟩

/-- Without its file, the image of the example cannot be loaded. -/
theorem not_load_imagelessSurroundings :
    ¬ ∃ image w', Image.load "i" imagelessSurroundings = (.ok image, w') := by
  rintro ⟨image, w', ran⟩
  have absent : (Image.loaded imagelessSurroundings.files "i").toBool = false := by decide +kernel
  rw [(Image.load_gives.eq_ok ran).1] at absent
  cases absent

/-- An empty name of an engine and a reference to a token key that names none are blamed where the image
is there, and not where it is missing. A missing key is blamed in both surroundings. -/
theorem sign_configuration_tooledSurroundings :
    EndsWith emptyEngineRun.sign tooledSurroundings
      (.failure (.configuration (.unknownEngine ""))) ∧
    EndsWith unnamedKeyRun.sign tooledSurroundings
      (.failure (.configuration (.unnamedKey "pkcs11:"))) ∧
    (∀ p, ¬ EndsWith emptyEngineRun.sign imagelessSurroundings (.failure (.configuration p))) ∧
    (∀ p, ¬ EndsWith unnamedKeyRun.sign imagelessSurroundings (.failure (.configuration p))) ∧
    keylessRun.sign imagelessSurroundings
      = (.error (.failure (.configuration .noKey)), imagelessSurroundings) := by
  obtain ⟨-, engine, -⟩ := sign_configuration emptyEngineRun
  obtain ⟨-, key, -⟩ := sign_configuration unnamedKeyRun
  obtain ⟨early, -, -, -, alike⟩ := sign_configuration keylessRun
  have valid : emptyEngineRun.validate = .ok () := by decide +kernel
  have valid' : unnamedKeyRun.validate = .ok () := by decide +kernel
  have keyless : keylessRun.validate = .error (.failure (.configuration .noKey)) := by decide +kernel
  have decided : keylessRun.IsDecided := by
    have noEngine : keylessRun.get .engine = .null := rfl
    refine ⟨by simp [noEngine], fun _ reference other => ?_⟩
    cases other
  refine ⟨(engine _ _).2 ?_, (key _ _).2 ?_, fun p failed => ?_, fun p failed => ?_, ?_⟩
  · exact .inr ⟨valid, exists_load_tooledSurroundings, .unknownEngine rfl rfl⟩
  · exact .inr ⟨valid', exists_load_tooledSurroundings, passesOver_unnamedKeyRun⟩
  · rcases (engine _ _).1 failed with refused | ⟨-, loads, -⟩
    · rw [valid] at refused
      cases refused
    · exact not_load_imagelessSurroundings loads
  · rcases (key _ _).1 failed with refused | ⟨-, loads, -⟩
    · rw [valid'] at refused
      cases refused
    · exact not_load_imagelessSurroundings loads
  · exact alike decided tooledSurroundings _ _ ⟨_, early _ keyless _⟩

end Configuration

end ImageSigning
