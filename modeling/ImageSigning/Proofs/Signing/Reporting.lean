import ImageSigning.CommandLine
import ImageSigning.Proofs.Configuration
import ImageSigning.Proofs.Image.Packing
import ImageSigning.Proofs.Signature.Defects
import ImageSigning.Proofs.Signing.Atomicity

/-!
# Which problems of a run are not reported

A run whose settings have the values that they are meant to have ends with a result, with a failure that
is reported, or with a defect. Each defect goes back to something that is odd about what the run was
given: a path that no file can have or that is too long, an entry of the image that is refused, a
certificate or a key of a kind that no check looks for, a name that cannot be read, or sizes and headers
that do not fit what is to be written. Where nothing of this kind is given, every problem is reported.

* **`Configuration.MayMake`** — the signatures that a run can be about to write.
* **`Configuration.Overlooks`** — what is odd about what a run was given.
* **`Configuration.sign_defectsIn`** — a run ends with no other defect.
* **`Configuration.sign_reported`** — what that means for a command, and that what keeps a run from being
  prepared, or is odd about key files or the signed image, does end it.
-/

namespace ImageSigning

open Run

/-- A command ends with the status for a result, with the one for a failure, or with a defect. -/
theorem CommandLine.signAndTell_cases {a : Arguments} {w w' : World} {o : Except Defect Nat}
    (h : signAndTell a w = (o, w')) :
    (∃ r v, sign a w = (.ok r, v) ∧ o = .ok 0) ∨
    (∃ f v, sign a w = (.error (.failure f), v) ∧ o = .ok failed) ∨
    ∃ d v, sign a w = (.error (.defect d), v) ∧ o = .error d := by
  unfold signAndTell at h
  rcases ended : (sign a).run.run w with ⟨(f | d) | r, v⟩
  · rw [ended] at h
    exact .inr (.inl ⟨f, v, ended, (Prod.mk.inj h).1.symm⟩)
  · rw [ended] at h
    exact .inr (.inr ⟨d, v, ended, (Prod.mk.inj h).1.symm⟩)
  · rw [ended] at h
    exact .inl ⟨r, v, ended, (Prod.mk.inj h).1.symm⟩

namespace Configuration

variable {c : Configuration} {image : Image} {s : Signature} {d : Digest} {i : Identity}
  {fs : FileSystem} {environment : List (String × String)} {w w' : World}

/-! ## What can be odd -/

/-- The signatures that a run can be about to write: accepted by the certificate that is named, over the
digest of the image that is named, with no certificates or those of the bundle that is named. -/
structure MayMake (c : Configuration) (fs : FileSystem) (image : Image) (s : Signature) : Prop where
  loaded : Image.loaded fs (c.get .image).display = .ok image
  signer : ∃ r, c.identityRequest = .ok r ∧ r.HasCertificate fs s.signer
  digest : imageDigest s.digest.algorithm image.data image.checksum image.entry = .ok s.digest
  accepted : s.IsAccepted s.signer s.digest
  others : s.others = [] ∨
    ∃ path, c.get .chain = .text path ∧ InputFile.bundle fs path = .ok s.others

/-- What is odd about what a run was given, so that it ends with a defect. Texts consist of characters here.
A setting, a path or an entry of the environment that holds half of a surrogate pair, as the octets of a
path that are not UTF-8 are taken for, is no text in this sense; encoding it goes wrong in ways of its own,
which are not among these. -/
inductive Overlooks (c : Configuration) (fs : FileSystem) (environment : List (String × String)) :
    Defect → Prop
  /-- The path of the image is none that a file can have. -/
  | image (null : FileSystem.hasNull (c.get .image).display = true) :
      Overlooks c fs environment .nullCharacter
  /-- The image has an entry that is refused. -/
  | entry {raw : Bytes} {d : Defect} (read : fs.read (c.get .image).display = .ok raw)
      (refused : Image.RefusedIn (c.get .image).display raw d) : Overlooks c fs environment d
  /-- Something is odd about what the identity is to be made from. -/
  | identity {r : IdentityRequest} {d : Defect} (asked : c.identityRequest = .ok r)
      (odd : r.Oddity fs environment d) : Overlooks c fs environment d
  /-- The path of the further certificates is too long. -/
  | chain {path : String} {d : Defect} (named : c.get .chain = .text path)
      (far : InputFile.IsUnreachable fs path d) : Overlooks c fs environment d
  /-- The first of the further certificates that cannot be read is of a version that does not exist. -/
  | version {path : String} {b : Bytes} (named : c.get .chain = .text path)
      (held : InputFile.octets fs .chain path = .ok b)
      (refused : Bundle.read b = .error .unknownVersion) :
      Overlooks c fs environment (.certificate .unknownVersion)
  /-- The signature cannot be written down. -/
  | signature {image : Image} {s : Signature} {d : Defect} (mayMake : c.MayMake fs image s)
      (odd : s.Oversized d) : Overlooks c fs environment d
  /-- A size of the signed image, or its checksum, does not fit four octets. -/
  | size {image : Image} {s : Signature} (mayMake : c.MayMake fs image s) (own : s.der = s.encode)
      (combined : (c.get .detached).isSet = false)
      (large : (image.append (.decoded s)).IsTooLarge image.entry.toNat) :
      Overlooks c fs environment .fieldMisplaced
  /-- The headers of the signed image cannot be read any more. -/
  | headers {image : Image} {s : Signature} (mayMake : c.MayMake fs image s) (own : s.der = s.encode)
      (combined : (c.get .detached).isSet = false)
      (lost : (image.append (.decoded s)).LosesHeaders image.entry.toNat) :
      Overlooks c fs environment .notImage
  /-- The path of the output is none that a file can have. -/
  | output {path : String} (shown : c.outputPath = .text path)
      (null : FileSystem.hasNull path = true) : Overlooks c fs environment .nullCharacter

/-! ## What a run does with an identity -/

/-- An image that was loaded and digested is put together with a signature, unless its sizes or its
headers do not fit. -/
theorem overlooks_of_toBytes {x : Defect} (mayMake : c.MayMake fs image s) (own : s.der = s.encode)
    (combined : (c.get .detached).isSet = false)
    (failed : (image.append (.decoded s)).toBytes = .error x) : c.Overlooks fs environment x := by
  obtain ⟨raw, -, found⟩ := Outcome.bind_eq_ok.1 mayMake.loaded
  obtain ⟨k, e, laid⟩ := Image.isLaidOut_of_ofFile found
  have entry : image.entry.toNat = e := by rw [laid.entry, Int.toNat_natCast]
  obtain ⟨apart, inside⟩ := laid.le_of_fieldsInside (Image.imageDigest_eq_ok.1 mayMake.digest).1
  have filled : (image.append (.decoded s)).certificateTable ≠ [] := by
    intro nothing
    have noEntries := CertificateTable.write_eq_nil_iff.1 nothing
    simp [Image.append, Store.append] at noEntries
  have checksum : (image.append (.decoded s)).checksum = k := laid.checksum
  rcases (Image.toBytes_eq_error checksum laid.entry apart inside filled).1 failed with
    ⟨large, rfl⟩ | ⟨-, lost, rfl⟩
  · exact .size mayMake own combined (entry ▸ large)
  · exact .headers mayMake own combined (entry ▸ lost)

/-- A signature is told of whose signer can be shown. -/
theorem report_of_shown {store : Store} {t : String} (shown : s.signer.subject.show = .ok t) :
    store.report (.decoded s) w = (.ok (), w.tell (.signatureStored store.count t)) := by
  have announced : store.announce (.decoded s) = .ok (.signatureStored store.count t) := by
    change s.signer.subject.show.map _ = _
    rw [shown]
    rfl
  unfold Store.report
  rw [announced]
  rfl

/-- Attaching a signature fails in an unexpected way only if something was overlooked. -/
theorem attach_defectsIn {path : String} (mayMake : c.MayMake fs image s) (own : s.der = s.encode)
    (subject : ∃ t, s.signer.subject.show = .ok t) (output : c.outputPath = .text path) :
    DefectsIn (c.Overlooks fs environment) (c.attach image s) w := by
  obtain ⟨t, shown⟩ := subject
  unfold attach
  rw [output]
  refine DefectsIn.bind ?_ fun _ w₁ _ => ?_
  · intro x w' ran
    rw [report_of_shown shown] at ran
    cases ran
  refine DefectsIn.bind (DefectsIn.bind ?_ fun _ w₂ _ => defectsIn_pure _) fun _ w₂ _ =>
    defectsIn_pure _
  refine Image.writeTo_defectsIn.mono fun x odd => ?_
  rcases odd with ⟨null, rfl⟩ | ⟨combined, failed⟩
  · exact .output output null
  · exact overlooks_of_toBytes mayMake own combined failed

/-- An image that cannot be put together with its new signature ends the run. -/
theorem attach_of_misfit {x : Defect} (subject : ∃ t, s.signer.subject.show = .ok t)
    (combined : (c.get .detached).isSet = false)
    (misfit : (image.append (.decoded s)).toBytes = .error x) :
    ∃ w', c.attach image s w = (.error (.defect x), w') := by
  obtain ⟨t, shown⟩ := subject
  unfold attach
  rw [bind_of_ok (report_of_shown shown), combined]
  exact ⟨_, bind_of_error (bind_of_error (Image.writeTo_of_misfit misfit))⟩

/-- What is known of an image, an identity and a digest when a signature is made. -/
structure IsUnderWay (c : Configuration) (fs : FileSystem) (image : Image) (i : Identity)
    (d : Digest) : Prop where
  loaded : Image.loaded fs (c.get .image).display = .ok image
  digest : imageDigest d.algorithm image.data image.checksum image.entry = .ok d
  asked : ∃ r, c.identityRequest = .ok r ∧ i.IsFound r fs

/-- An accepted signature is one that a run that is under way may make. -/
theorem IsUnderWay.mayMake (h : c.IsUnderWay fs image i d) (accepted : s.IsAccepted i.certificate d)
    (others : s.others = [] ∨
      ∃ path, c.get .chain = .text path ∧ InputFile.bundle fs path = .ok s.others) :
    c.MayMake fs image s := by
  obtain ⟨r, asked, found⟩ := h.asked
  refine ⟨h.loaded, ⟨r, asked, ?_⟩, ?_, ?_, others⟩
  · rw [accepted.signer]
    exact found.certificate
  · rw [accepted.digest]
    exact h.digest
  · rw [accepted.signer, accepted.digest]
    exact accepted

/-- Making the signature fails in an unexpected way only if something was overlooked. -/
theorem signatureOver_defectsIn (typed : c.IsTyped) (h : c.IsUnderWay w.files image i d)
    (ready : i.key.IsReady w) : DefectsIn (c.Overlooks w.files environment) (c.signatureOver d i) w := by
  obtain ⟨r, asked, found⟩ := h.asked
  unfold signatureOver
  refine DefectsIn.bind ?_ fun s w₁ built => ?_
  · refine (Signature.build_defectsIn ready found.subject).mono ?_
    rintro x ⟨s, accepted, alone, odd⟩
    exact .signature (h.mayMake accepted (.inl alone)) odd
  · obtain ⟨accepted, alone, -⟩ := Signature.isAccepted_of_build built
    obtain ⟨n, own⟩ := i.key.exists_isOf
    have same : w₁.files = w.files := ((Signature.build_quiet own d).of_eq built).files
    refine DefectsIn.ite (fun wanted => ?_) fun _ => defectsIn_pure _
    obtain ⟨path, named⟩ := exists_text_of_isSet (typed .chain) wanted
    rw [named, text_bind]
    refine Signature.augment_defectsIn.mono ?_
    rw [same, alone]
    rintro x (refused | ⟨chain, read, odd⟩)
    · rcases InputFile.bundle_eq_defect.1 refused with far | ⟨b, held, newer, rfl⟩
      · exact .chain named far
      · exact .version named held newer
    · exact .signature (h.mayMake (accepted.withOthers _) (.inr ⟨path, named, read⟩)) odd

/-- The signature that is made is one that may be. -/
theorem mayMake_of_signatureOver (h : c.IsUnderWay w.files image i d)
    (signs : c.signatureOver d i w = (.ok s, w')) : c.MayMake w.files image s ∧ s.der = s.encode := by
  unfold signatureOver at signs
  obtain ⟨t, w₁, built, signs⟩ := bind_eq_ok.1 signs
  obtain ⟨accepted, alone, own⟩ := Signature.isAccepted_of_build built
  split at signs
  · obtain ⟨path, w₂, taken, signs⟩ := bind_eq_ok.1 signs
    obtain ⟨named, rfl⟩ := text_eq_ok.1 taken
    obtain ⟨accepted', own', chain, read, others⟩ := accepted.augment signs
    obtain ⟨n, of⟩ := i.key.exists_isOf
    rw [((Signature.build_quiet of d).of_eq built).files] at read
    rw [alone, List.nil_append] at others
    refine ⟨h.mayMake accepted' (.inr ⟨path, named, ?_⟩), own'⟩
    rw [others]
    exact read
  · obtain ⟨rfl, -⟩ := pure_eq_ok.1 signs
    exact ⟨h.mayMake accepted (.inl alone), own⟩

/-- With an identity a run ends with a defect only if something is odd about what it was given. -/
theorem body_defectsIn {a : DigestAlgorithm} {path : String} (typed : c.IsTyped)
    (loaded : Image.loaded w.files (c.get .image).display = .ok image)
    (asked : ∃ r, c.identityRequest = .ok r ∧ i.IsFound r w.files) (ready : i.key.IsReady w)
    (output : c.outputPath = .text path) :
    DefectsIn (c.Overlooks w.files environment) (c.body image a i) w := by
  unfold body
  refine DefectsIn.bind ?_ fun d w₁ digested => ?_
  · unfold Image.digest
    refine (defectsIn_lift_failure _ _).bind fun d w₁ _ => ?_
    exact (defectsIn_tell _).bind fun _ w₂ _ => defectsIn_pure _
  obtain ⟨algorithm, computed⟩ := Image.digest_eq_ok digested
  have quiet₁ (n : Nat) : World.IsQuiet n w w₁ := (Image.digest_quiet image a).of_eq digested
  refine (defectsIn_tell _).bind fun _ w₂ told => ?_
  obtain rfl := tell_eq_ok.1 told
  have quiet₂ (n : Nat) : World.IsQuiet n w (w₁.tell (.digestChosen a.name d.toHex)) :=
    trans_of (World.IsQuiet n) (quiet₁ n) ((tell_quiet _).related _)
  have underWay : c.IsUnderWay w.files image i d := ⟨loaded, by rw [algorithm]; exact computed, asked⟩
  rw [← (quiet₂ 0).files] at underWay ⊢
  refine (signatureOver_defectsIn typed underWay (ready.of_quiet quiet₂)).bind fun s w₃ signed => ?_
  obtain ⟨mayMake, own⟩ := mayMake_of_signatureOver underWay signed
  have subject := (made_of_signatureOver signed).isComplete.subject
  exact (attach_defectsIn mayMake own subject output).bind fun _ w₄ _ => defectsIn_pure _

/-! ## The run -/

/-- A request has the key, the certificate, the format and the origin of the configuration. -/
theorem identityRequest_eq_ok {r : IdentityRequest} (h : c.identityRequest = .ok r) :
    r.key = c.get .key ∧ r.certificate = c.get .certificate ∧ r.password = none ∧
      c.keyFormat = .ok r.format ∧ c.origin = .ok r.origin := by
  unfold identityRequest at h
  obtain ⟨format, named, h⟩ := Outcome.bind_eq_ok.1 h
  obtain ⟨origin, originNamed, h⟩ := Outcome.bind_eq_ok.1 h
  obtain rfl := Outcome.pure_eq_ok.1 h
  exact ⟨rfl, rfl, rfl, named, Outcome.mapError_eq_ok.1 originNamed⟩

/-- The options that come with a key's origin are those of the configuration. -/
theorem engineOptions_of_origin {origin : KeyOrigin} {name : String} {options : List (String × Value)}
    (h : c.origin = .ok origin) (engine : origin = .engine name options) :
    c.engineOptions = options := by
  unfold Configuration.origin at h
  obtain ⟨n, -, rfl⟩ := Outcome.map_eq_ok.1 h
  cases n with
  | none => cases engine
  | some other =>
    injection engine

/-- With the identity that is asked for, a run fails in an unexpected way only if something was
overlooked. -/
theorem use_body_defectsIn {r : IdentityRequest} {a : DigestAlgorithm} (typed : c.IsTyped)
    (valid : c.validate = .ok ()) (asked : c.identityRequest = .ok r)
    (loaded : Image.loaded w.files (c.get .image).display = .ok image) :
    DefectsIn (c.Overlooks w.files w.environment) (Identity.use r (c.body image a)) w := by
  obtain ⟨imageGiven, certificateGiven, keyGiven, -, -⟩ := validate_eq_ok valid
  obtain ⟨path, output⟩ := typed.exists_outputPath imageGiven
  obtain ⟨certificate, certificateText⟩ := exists_text_of_isSet (typed .certificate) certificateGiven
  obtain ⟨key, keyText⟩ := exists_text_of_isSet (typed .key) keyGiven
  obtain ⟨sameKey, sameCertificate, -, -, origin⟩ := identityRequest_eq_ok asked
  rw [← sameCertificate] at certificateText
  rw [← sameKey] at keyText
  intro x w' ran
  obtain ⟨-, ⟨f, same, -, failed | ⟨p, n, w₁, asks, here, files, failed⟩⟩ |
    ⟨p, n, w₁, w₂, -, files, usable, ran', -⟩⟩ :=
      Identity.use_cases (origin_ne_given asked) (fun n i own => body_within own) ran
  · -- no provider could be made
    obtain rfl := Except.error.inj same
    rcases Identity.provider_cases (origin_ne_given asked) failed with
      ⟨_, here, -, ⟨-, rfl⟩ | ⟨name, options, engine, refused⟩⟩ | ⟨_, other, -⟩
    · cases here
    · obtain rfl := Except.error.inj here
      obtain rfl := engineOptions_of_origin origin engine
      exact (typed.ofName_ne_defect refused).elim
    · cases other
  · -- one was, and cannot be made ready
    obtain rfl := Except.error.inj same
    obtain ⟨e, module, rfl, named, far⟩ := Provider.setUp_defectsIn here x w₁ failed
    rw [files] at far
    exact .identity asked (.module asks named far)
  · -- one is ready, and the run goes on from the same files
    rw [← files] at loaded ⊢
    have identity : DefectsIn (c.Overlooks w₁.files w.environment) (Identity.load (p.source n) r) w₁ :=
      (Identity.load_defectsIn certificateText keyText).mono fun d odd => .identity asked odd
    refine identity.bind (fun i w₃ opened => ?_) x w₂ ran'
    obtain ⟨found, ready⟩ := Identity.load_spec usable opened
    have same : w₃.files = w₁.files :=
      ((Identity.load_quiet p n r).of_eq opened : World.IsQuiet n w₁ w₃).files
    rw [← same] at loaded found ⊢
    exact body_defectsIn typed loaded ⟨r, asked, found⟩ ready output

/-- Preparing a run ends with a defect only if the image's path or an entry of it is odd. -/
theorem overlooks_of_prepared {x : Defect} (typed : c.IsTyped)
    (failed : c.prepared fs = .error (.defect x)) : c.Overlooks fs environment x := by
  unfold prepared at failed
  rcases Outcome.bind_eq_error.1 failed with failed | ⟨_, -, failed⟩
  · exact (typed.validate_ne_defect failed).elim
  rcases Outcome.bind_eq_error.1 failed with failed | ⟨a, -, failed⟩
  · exact (typed.digestAlgorithm_ne_defect failed).elim
  rcases Outcome.bind_eq_error.1 failed with failed | ⟨image, -, failed⟩
  · rcases Image.loaded_eq_defect.1 failed with ⟨null, rfl⟩ | ⟨raw, read, refused⟩
    · exact .image null
    · exact .entry read refused
  rcases Outcome.bind_eq_error.1 failed with failed | ⟨r, -, failed⟩
  · exact (typed.identityRequest_ne_defect failed).elim
  · exact (Outcome.pure_ne_error failed).elim

/-- A run ends with a defect only if something is odd about what it was given. -/
theorem sign_defectsIn (typed : c.IsTyped) (w : World) :
    DefectsIn (c.Overlooks w.files w.environment) c.sign w := by
  intro x w' ran
  rcases sign_stages ran with ⟨f, same, failed, -⟩ | ⟨a, image, r, w₁, o, found, quiet, used, same⟩
  · obtain rfl := Except.error.inj same
    exact overlooks_of_prepared typed failed
  · obtain ⟨valid, -, loaded, asked⟩ := prepared_eq_ok.1 found
    rcases o with f | m
    · obtain rfl := Except.error.inj same
      rw [← (quiet 0).files] at loaded ⊢
      rw [← (quiet 0).environment]
      exact use_body_defectsIn typed valid asked loaded x w' used
    · cases same

/-! ## What ends a run -/

/-- A run that is prepared and takes its certificate and its key from files. -/
structure TakesKeyFile (c : Configuration) (fs : FileSystem) (a : DigestAlgorithm) (image : Image)
    (r : IdentityRequest) (certificate key : String) : Prop where
  prepared : c.prepared fs = .ok (a, image, r)
  engine : c.get .engine = .null
  certificate : c.get .certificate = .text certificate
  key : c.get .key = .text key

/-- What ends such a run: there is no identity in the files, or there is one and the image cannot be put
together with the signature that it gives. -/
inductive FailsWith (c : Configuration) (fs : FileSystem) (a : DigestAlgorithm) (image : Image)
    (r : IdentityRequest) (certificate key : String) : Fault → Prop
  | identity {f : Fault} (absent : Identity.ofFiles r fs certificate key = .error f) :
      FailsWith c fs a image r certificate key f
  | writing {i : Identity} {d : Digest} {s : Signature} {x : Defect}
      (found : Identity.ofFiles r fs certificate key = .ok i)
      (digest : imageDigest a image.data image.checksum image.entry = .ok d)
      (signed : Gives fs (c.signatureOver d i) (.ok s)) (combined : (c.get .detached).isSet = false)
      (misfit : (image.append (.decoded s)).toBytes = .error x) :
      FailsWith c fs a image r certificate key (.defect x)

section
variable {a : DigestAlgorithm} {r : IdentityRequest} {certificate key : String} {f : Fault}

/-- A run that cannot be prepared ends with what is wrong. -/
theorem sign_of_prepared_error (failed : c.prepared w.files = .error f) :
    ∃ w', c.sign w = (.error f, w') := by
  rcases ran : c.sign w with ⟨o, w'⟩
  rcases sign_stages ran with ⟨g, rfl, failed', -⟩ | ⟨a, image, r, w₁, o', found, -⟩
  · obtain rfl := Except.error.inj (failed.symm.trans failed')
    exact ⟨w', rfl⟩
  · rw [failed] at found
    cases found

/-- A run that takes its key out of a file is given the identity of the two files. -/
theorem TakesKeyFile.load_gives (h : c.TakesKeyFile fs a image r certificate key) :
    r.origin = .files ∧ r.format ≠ .engine ∧ ∀ n, Gives fs
      (Identity.load (Provider.files.source n) r) (Identity.ofFiles r fs certificate key) := by
  obtain ⟨valid, -, -, asked⟩ := prepared_eq_ok.1 h.prepared
  obtain ⟨sameKey, sameCertificate, -, format, origin⟩ := identityRequest_eq_ok asked
  have other : r.format ≠ .engine := by
    obtain ⟨-, -, -, ⟨format', format'_, engine⟩, -⟩ := validate_eq_ok valid
    obtain rfl := Except.ok.inj (format.symm.trans format'_)
    intro named
    have set := engine named
    rw [h.engine] at set
    cases set
  refine ⟨?_, other, fun n => ?_⟩
  · unfold Configuration.origin engineName at origin
    rw [h.engine] at origin
    exact (Except.ok.inj origin).symm
  · exact Identity.load_files_gives (sameCertificate.trans h.certificate) (sameKey.trans h.key) other

/-- A run that takes its key out of a file fails with what fails once the identity is loaded. -/
theorem TakesKeyFile.sign_eq_error (h : c.TakesKeyFile w.files a image r certificate key)
    (ends : ∀ n v, v.files = w.files →
      ∃ v', (Identity.load (Provider.files.source n) r >>= c.body image a) v = (.error f, v')) :
    ∃ w', c.sign w = (.error f, w') := by
  obtain ⟨origin, format, -⟩ := h.load_gives
  rcases ran : c.sign w with ⟨o, w'⟩
  rcases sign_stages ran with ⟨g, -, failed, -⟩ | ⟨a', image', r', w₁, o', found, quiet, used, rfl⟩
  · rw [h.prepared] at failed
    cases failed
  · obtain ⟨rfl, rest⟩ := Prod.mk.inj (Except.ok.inj (h.prepared.symm.trans found))
    obtain ⟨rfl, rfl⟩ := Prod.mk.inj rest
    obtain ⟨n, w₂, w₃, o, w₄, used', same, inner⟩ : ∃ n w₂ w₃ o w₄,
        Identity.use r (c.body image a) w₁ = (o, w₄) ∧ w₂.files = w₁.files ∧
        (Identity.load (Provider.files.source n) r >>= c.body image a) w₂ = (o, w₃) :=
      Identity.use_files origin format fun n i own => body_within own
    obtain ⟨w₅, ended⟩ := ends n w₂ (same.trans (quiet 0).files)
    rw [ended] at inner
    obtain ⟨rfl, -⟩ := Prod.mk.inj inner
    rw [used'] at used
    obtain ⟨rfl, -⟩ := Prod.mk.inj used
    exact ⟨w', rfl⟩

/-- A run that takes its key out of a file ends with what is wrong about the files, or about the image
with the signature. -/
theorem TakesKeyFile.sign_of_failsWith (h : c.TakesKeyFile w.files a image r certificate key)
    (ends : c.FailsWith w.files a image r certificate key f) : ∃ w', c.sign w = (.error f, w') := by
  refine h.sign_eq_error fun n v same => ?_
  obtain ⟨v₁, opened, same₁⟩ := h.load_gives.2.2 n v same
  cases ends with
  | identity absent =>
    rw [absent] at opened
    exact ⟨v₁, bind_of_error opened⟩
  | @writing i d s x found digest signed combined misfit =>
    rw [found] at opened
    have digested : Gives w.files (image.digest a) (.ok d) := by
      unfold Image.digest
      rw [digest]
      exact (gives_pure d).seq ((gives_tell _).seq (gives_pure d))
    obtain ⟨v₂, ran₂, same₂⟩ := digested v₁ same₁
    obtain ⟨v₃, ran₃, same₃⟩ := signed (v₂.tell (.digestChosen a.name d.toHex)) same₂
    obtain ⟨v₄, ran₄⟩ := attach_of_misfit (w := v₃)
      (made_of_signatureOver ran₃).isComplete.subject combined misfit
    rw [bind_of_ok opened]
    unfold body
    rw [bind_of_ok ran₂, bind_of_ok (tell_eq _ _), bind_of_ok ran₃, bind_of_error ran₄]
    exact ⟨v₄, rfl⟩

end

/-! ## What is reported -/

/-- **What is reported.** A run whose settings have the values that they are meant to have ends with a
result, with a failure that has a report, or with a defect because of something odd about what it was
given; a command for it ends with the status for the first, with the one for the second, or with the
defect. Whatever keeps a run from being prepared does end it, reported or not, and so does what is odd
about a certificate and a key that are taken from files, and an image that cannot be put together with the
signature that they give.

The surroundings are those of `World`. A tool leaves a file or nothing where its output belongs
(`ToolOutcome`), a private directory can always be made and removed (`Provider.setUpEngine`,
`Provider.shutDownEngine`), and texts consist of characters (`Overlooks`); about other surroundings nothing
is said. -/
theorem sign_reported (typed : c.IsTyped) (w : World) :
    (∀ o w', c.sign w = (o, w') → (∃ r, o = .ok r) ∨ (∃ f, o = .error (.failure f)) ∨
      ∃ d, o = .error (.defect d) ∧ c.Overlooks w.files w.environment d) ∧
    (∀ a, ofArguments w.files a (w.environment.map fun (n, v) => (n, Value.text v)) = .ok c →
      ∀ o w', CommandLine.signAndTell a w = (o, w') → o = .ok 0 ∨ o = .ok CommandLine.failed ∨
        ∃ d, o = .error d ∧ c.Overlooks w.files w.environment d) ∧
    (∀ f, c.prepared w.files = .error f → ∃ w', c.sign w = (.error f, w')) ∧
    ∀ a image r certificate key f, c.TakesKeyFile w.files a image r certificate key →
      c.FailsWith w.files a image r certificate key f → ∃ w', c.sign w = (.error f, w') := by
  refine ⟨fun o w' ran => ?_, fun a read o w' ran => ?_, fun f => sign_of_prepared_error,
    fun a image r certificate key f taken ends => taken.sign_of_failsWith ends⟩
  · rcases o with (f | d) | r
    · exact .inr (.inl ⟨f, rfl⟩)
    · exact .inr (.inr ⟨d, rfl, sign_defectsIn typed w d w' ran⟩)
    · exact .inl ⟨r, rfl⟩
  · have same : (CommandLine.sign a) w = c.sign w := by
      unfold CommandLine.sign
      rw [bind_of_ok (get_eq_ok.2 ⟨rfl, rfl⟩)]
      dsimp only
      rw [read]
      rfl
    rcases CommandLine.signAndTell_cases ran with ⟨-, -, -, rfl⟩ | ⟨-, -, -, rfl⟩ | ⟨d, v, ended, rfl⟩
    · exact .inl rfl
    · exact .inr (.inl rfl)
    · exact .inr (.inr ⟨d, rfl, sign_defectsIn typed w d v (same ▸ ended)⟩)

/-! ## A run that is not reported -/

/-- The surroundings of the short run with a certificate of a version that does not exist. -/
def newerSurroundings : World :=
  { shortSurroundings with
    files := shortSurroundings.files.put ["c"] (.file ⟨Image.newerCertificate, 0o644, none⟩) }

/-- The configuration of the short run is typed. -/
theorem isTyped_shortRun : (shortRun "i" "o").IsTyped := by
  intro s
  cases s
  case keyFormat | digest => exact ⟨_, rfl⟩
  case detached | verbose => exact ⟨_, rfl⟩
  case chain | engine | module | pin | tool => exact .inl rfl
  all_goals exact .inr ⟨_, rfl⟩

/-- The short run takes its key out of a file in the surroundings of the example. -/
theorem takesKeyFile_newerSurroundings : ∃ image r,
    (shortRun "i" "o").TakesKeyFile newerSurroundings.files .sha256 image r "c" "k" := by
  have loads : (Image.loaded newerSurroundings.files "i").toBool = true := by decide +kernel
  have valid : (shortRun "i" "o").validate = .ok () := by decide +kernel
  have format : (shortRun "i" "o").keyFormat = .ok .der := by decide +kernel
  have algorithm : (shortRun "i" "o").digestAlgorithm = .ok .sha256 := by decide +kernel
  have asked : (shortRun "i" "o").identityRequest = .ok ⟨.text "k", .der, .text "c", .files, none⟩ := by
    unfold identityRequest
    rw [format]
    rfl
  rcases found : Image.loaded newerSurroundings.files "i" with f | image
  · rw [found] at loads
    cases loads
  · exact ⟨image, _, prepared_eq_ok.2 ⟨valid, algorithm, found, asked⟩, rfl, rfl, rfl⟩

/-- Nothing but the version of the certificate is wrong, and no report says so. -/
theorem sign_reported_newerSurroundings : (shortRun "i" "o").IsTyped ∧
    ∃ w', (shortRun "i" "o").sign newerSurroundings
      = (.error (.defect (.certificate .unknownVersion)), w') := by
  refine ⟨isTyped_shortRun, ?_⟩
  obtain ⟨image, r, taken⟩ := takesKeyFile_newerSurroundings
  obtain ⟨-, -, -, ends⟩ := sign_reported isTyped_shortRun newerSurroundings
  have refused : InputFile.certificate newerSurroundings.files "c"
      = .error (.defect (.certificate .unknownVersion)) := by decide +kernel
  have absent : Identity.ofFiles r newerSurroundings.files "c" "k"
      = .error (.defect (.certificate .unknownVersion)) := by
    unfold Identity.ofFiles
    rw [refused]
    rfl
  exact ends _ _ _ _ _ _ taken (.identity absent)

end Configuration

end ImageSigning
