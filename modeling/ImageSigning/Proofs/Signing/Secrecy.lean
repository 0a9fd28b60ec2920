import ImageSigning.Proofs.Signing.Misconfiguration
import ImageSigning.Proofs.Token.Secrecy

/-!
# The secret of a token does not leak

Two runs are told the same but for the secret of the token. Nothing but the engine takes any notice of it,
and the engine only hands it on, as the last argument of its tool. So, stage by stage, the two runs are in
step: what they look at is the same in both surroundings, and what they change stays the same. A tool that
does not let the secret show leaves the runs with the same outcome and the same surroundings, but for what
it was asked.

* **`Configuration.SameBut`** — configurations that are the same but for a secret.
* **`Image.load_blind`**, **`Identity.inStep_load`**, **`Signature.build_blind`**,
  **`Image.writeTo_blind`** — the stages of signing.
* **`Configuration.sign_hides`** — what two runs have in common.
-/

namespace ImageSigning

open Run

variable {p q : String}

/-! ## The stages of signing -/

/-- Telling one event after another does not look at the secret. -/
theorem tells_blind {ι : Type} (l : List ι) (e : ι → Event) :
    IsBlind p q (forIn l PUnit.unit fun i _ => do
      tell (e i)
      pure (ForInStep.yield PUnit.unit)) := by
  refine ⟨fun w w' alike => ?_⟩
  rw [forIn_tell_eq, forIn_tell_eq]
  exact ⟨.ok rfl, { alike with journal := congrArg (· ++ l.map e) alike.journal }⟩

namespace Image

/-- Reporting what was stored does not look at the secret. -/
theorem report_blind (s : Store) (x : StoredSignature) : IsBlind p q (s.report x) := by
  unfold Store.report
  exact InStep.seq (inStep_lift_self _ _) fun e => tell_blind e

/-- Storing an entry that does not decode does not look at the secret. -/
theorem storeUndecoded_blind (path : String) (number : Nat) (content : Bytes)
    (problem : SignatureProblem) (s : Store) :
    IsBlind p q (storeUndecoded path number content problem s) := by
  unfold storeUndecoded
  refine InStep.seq (tell_blind _) fun _ => ?_
  exact InStep.seq (report_blind s _) fun _ => inStep_pure rfl

/-- Storing an entry does not look at the secret. -/
theorem storeEntry_blind (path : String) (number : Nat) (content : Bytes) (s : Store) :
    IsBlind p q (storeEntry path number content s) := by
  unfold storeEntry
  split
  · exact InStep.ite (storeUndecoded_blind ..) (inStep_defect _)
  · dsimp only
    split
    · exact InStep.seq (tell_blind _) fun _ => inStep_pure rfl
    · exact InStep.ite (storeUndecoded_blind ..) (inStep_defect _)

/-- Storing the entries of a table does not look at the secret. -/
theorem storeEntries_blind (path : String) (number : Nat) (contents : List Bytes) (s : Store) :
    IsBlind p q (storeEntries path number contents s) := by
  induction contents generalizing number s with
  | nil => exact inStep_pure rfl
  | cons content contents ih =>
    rw [storeEntries]
    exact InStep.seq (storeEntry_blind path number content s) fun s => ih (number + 1) s

/-- Loading an image does not look at the secret. -/
theorem load_blind (path : String) : IsBlind p q (load path) := by
  unfold load
  refine inStep_get_bind fun w w' alike => ?_
  rw [alike.files]
  refine InStep.seq (inStep_lift_self _ _) fun raw => InStep.seq (inStep_lift_self _ _) fun parts => ?_
  refine InStep.tellIf (tell_blind _) ?_
  refine InStep.seq (tells_blind _ _) fun _ => InStep.seq (inStep_lift_self _ _) fun contents => ?_
  refine InStep.seq (storeEntries_blind ..) fun signatures => ?_
  exact InStep.seq (tell_blind _) fun _ => inStep_pure rfl

/-- Digesting an image does not look at the secret. -/
theorem digest_blind (image : Image) (a : DigestAlgorithm) : IsBlind p q (image.digest a) := by
  unfold digest
  refine InStep.seq (inStep_lift_self _ _) fun d => ?_
  exact InStep.seq (tell_blind _) fun _ => inStep_pure rfl

/-- Writing a file does not look at the secret. -/
theorem writeFile_blind (path : String) (b : Bytes) : IsBlind p q (writeFile path b) := by
  unfold writeFile
  refine inStep_get_bind fun w w' alike => ?_
  rw [alike.files]
  dsimp only
  refine InStep.seq (inStep_set { alike with files := rfl }) fun _ => ?_
  split
  · exact tell_blind _
  · exact inStep_fail _
  · exact inStep_defect _

/-- Writing an image to a path does not look at the secret. -/
theorem write_blind (image : Image) (detached : Bool) (path : String) :
    IsBlind p q (image.write detached path) := by
  unfold write writeDetached writeCombined
  refine InStep.ite ?_ ?_
  · split
    · exact inStep_fail _
    · refine InStep.seq ?_ fun _ => InStep.seq (tell_blind _) fun _ => inStep_pure rfl
      split
      · exact inStep_fail _
      · exact writeFile_blind _ _
  · refine InStep.seq ?_ fun _ => InStep.seq (tell_blind _) fun _ => inStep_pure rfl
    exact InStep.seq (inStep_lift_self _ _) fun b => writeFile_blind path b

/-- Writing an image to what a configuration gives does not look at the secret. -/
theorem writeTo_blind (image : Image) (detached : Bool) (v : Value) :
    IsBlind p q (image.writeTo detached v) := by
  unfold writeTo
  split
  · exact write_blind image detached _
  · refine InStep.ite ?_ (inStep_defect _)
    refine InStep.seq ?_ fun _ => inStep_defect _
    exact InStep.seq (inStep_lift_self _ _) fun _ => inStep_pure rfl

end Image

namespace Provider

/-- Loading a key out of a file does not look at the secret of a token. -/
theorem loadFromFile_blind (path : Value) (format : KeyFormat) (password : Option Bytes) :
    IsBlind p q (loadFromFile path format password) := by
  unfold loadFromFile
  refine InStep.throwUnless (InStep.seq (inStep_text _) fun path => ?_)
  refine inStep_get_bind fun w w' alike => ?_
  rw [alike.files]
  exact InStep.seq (inStep_lift_self _ _) fun key => inStep_pure rfl

/-- Naming a key in a token does not look at the secret: the key holds the provider's number. -/
theorem loadFromToken_blind (n : Nat) (reference : Value) (format : KeyFormat) (c : Certificate)
    (password : Option Bytes) : IsBlind p q (loadFromToken n reference format c password) := by
  unfold loadFromToken referenceText
  refine InStep.ite (loadFromFile_blind ..) (InStep.seq (inStep_lift_self _ _) fun key => ?_)
  refine InStep.seq ?_ fun text => InStep.seq (inStep_lift_self _ _) fun attributes => inStep_pure rfl
  split
  · exact inStep_pure rfl
  · exact inStep_defect _
  · exact inStep_defect _

/-- Loading a key from any source does not look at the secret. -/
theorem loadKey_blind (x : Provider) (n : Nat) (reference : Value) (format : KeyFormat)
    (c : Certificate) (password : Option Bytes) :
    IsBlind p q ((source x n).loadKey reference format c password) := by
  cases x with
  | files => exact loadFromFile_blind ..
  | token e => exact loadFromToken_blind ..

end Provider

namespace Identity

/-- Requests that are the same but for the secret load the same identity. -/
theorem inStep_load (x : Provider) (n : Nat) {r r' : IdentityRequest} (h : r.SameBut p q r') :
    AreTwins p q Eq (load (x.source n) r) (load (x.source n) r') := by
  unfold load
  rw [h.certificate, h.key, h.format, h.password]
  refine InStep.seq (inStep_text _) fun path => inStep_get_bind fun w w' alike => ?_
  rw [alike.files]
  refine InStep.seq (inStep_lift_self _ _) fun certificate => ?_
  refine InStep.seq (Provider.loadKey_blind ..) fun key => ?_
  refine InStep.seq (inStep_lift_self _ _) fun summary => ?_
  exact InStep.seq (tell_blind _) fun _ => inStep_pure rfl

/-- A block with an identity is in step if it is with every one. -/
theorem inStep_use {α : Type} {r r' : IdentityRequest} {block : Identity → Run α} (h : r.SameBut p q r')
    (blocks : ∀ i, IsBlind p q (block i)) : AreTwins p q Eq (use r block) (use r' block) := by
  refine (inStep_provider h).bind fun s s' same => ?_
  obtain ⟨rfl, x, n, rfl⟩ := same
  exact KeySource.inStep_session (Provider.setUp_blind n)
    (InStep.seq (inStep_load x n h) blocks) (Provider.shutDown_blind n)

end Identity

namespace Signature

/-- Encoding a signature does not look at the secret. -/
theorem written_blind (s : Signature) : IsBlind p q s.written := by
  unfold written
  exact InStep.seq (inStep_lift_self _ _) fun s => InStep.throwUnless (inStep_pure rfl)

/-- Building a signature hands the secret on, but what is built does not depend on it. -/
theorem build_blind (hp : IsPassable p) (hq : IsPassable q) (i : Identity) (d : Digest) :
    IsBlind p q (build i d) := by
  unfold build signContent
  refine InStep.seq (inStep_lift_self _ _) fun algorithm => ?_
  refine InStep.seq (inStep_lift_self _ _) fun _ => ?_
  have signs := inStep_tryCatch (i.key.sign_blind hp hq d.algorithm.hash
    (signedForm (attributesFor d.algorithm (bind d)))) rejected fun _ _ => congrArg rejected
  refine InStep.seq signs fun value => InStep.ite ?_ ?_
  · exact InStep.seq (inStep_lift_self _ _) fun subject => inStep_throw_bind _ _ _
  · refine InStep.seq (written_blind _) fun s => ?_
    refine InStep.seq (inStep_lift_self _ _) fun subject => ?_
    exact InStep.seq (tell_blind _) fun _ => inStep_pure rfl

/-- Adding a chain of certificates does not look at the secret. -/
theorem augment_blind (s : Signature) (path : String) : IsBlind p q (s.augment path) := by
  unfold augment
  refine inStep_get_bind fun w w' alike => ?_
  rw [alike.files]
  refine InStep.seq (inStep_lift_self _ _) fun chain => ?_
  refine InStep.tellIf (tell_blind _) (InStep.seq (written_blind _) fun s => ?_)
  exact InStep.seq (tell_blind _) fun _ => inStep_pure rfl

end Signature

namespace Configuration

variable {c c' : Configuration} {w w' : World}

/-- Configurations that are the same but for a secret. -/
inductive SameBut (p q : String) : Configuration → Configuration → Prop
  | same (c : Configuration) : SameBut p q c c
  | secret (c : Configuration) : SameBut p q (c.set .pin (.text p)) (c.set .pin (.text q))

/-- What takes no notice of a secret is the same. -/
theorem SameBut.eq {α : Type} (h : c.SameBut p q c') (f : Configuration → α)
    (blind : ∀ c v, f (set c .pin v) = f c) : f c' = f c := by
  cases h with
  | same => rfl
  | secret c => rw [blind, blind]

/-- Configurations that are the same but for a secret take their keys from the same place. -/
theorem SameBut.origin (h : c.SameBut p q c') :
    Agree Eq (KeyOrigin.SameBut p q) c.origin c'.origin := by
  cases h with
  | same c =>
    rcases here : c.origin with d | o
    · exact .error rfl
    · unfold Configuration.origin at here
      obtain ⟨name, -, rfl⟩ := Outcome.map_eq_ok.1 here
      rcases name with _ | name
      · exact .ok .files
      · exact .ok (.engine name (.same _))
  | secret c =>
    have options : Provider.OptionsSameBut p q (c.set .pin (.text p)).engineOptions
        (c.set .pin (.text q)).engineOptions := by
      have engine (v : Value) : (c.set .pin v).get .engine = c.get .engine :=
        get_set_of_ne c v (by decide)
      unfold engineOptions
      rw [engine, engine]
      split
      · exact .same _
      · exact .secret _ _
    unfold Configuration.origin
    change Agree Eq _ (c.engineName.map _) (c.engineName.map _)
    rcases c.engineName with d | name
    · exact .error rfl
    · rcases name with _ | name
      · exact .ok .files
      · exact .ok (.engine name options)

/-- Configurations that are the same but for a secret ask for the same identity. -/
theorem SameBut.identityRequest (h : c.SameBut p q c') :
    Agree Eq (IdentityRequest.SameBut p q) c.identityRequest c'.identityRequest := by
  unfold Configuration.identityRequest
  rw [h.eq keyFormat fun _ _ => rfl]
  rcases c.keyFormat with f | format
  · exact .error rfl
  have origins := h.origin
  generalize c.origin = o at origins
  generalize c'.origin = o' at origins
  cases origins with
  | error same => exact .error (congrArg _ same)
  | ok same =>
    have key : c'.get .key = c.get .key := h.eq (·.get .key) fun _ _ => rfl
    have certificate : c'.get .certificate = c.get .certificate :=
      h.eq (·.get .certificate) fun _ _ => rfl
    exact .ok ⟨key, rfl, certificate, same, rfl⟩

/-- What a run does with an identity does not depend on the secret. -/
theorem body_blind (hp : IsPassable p) (hq : IsPassable q) (c : Configuration) (image : Image)
    (a : DigestAlgorithm) (i : Identity) : IsBlind p q (c.body image a i) := by
  unfold body signatureOver attach
  refine InStep.seq (Image.digest_blind image a) fun digest => InStep.seq (tell_blind _) fun _ => ?_
  refine InStep.seq (InStep.seq (Signature.build_blind hp hq i digest) fun s => InStep.ite ?_ ?_)
    fun s => ?_
  · exact InStep.seq (inStep_text _) fun path => Signature.augment_blind s path
  · exact inStep_pure rfl
  · refine InStep.seq ?_ fun signed => inStep_pure rfl
    refine InStep.seq (Image.report_blind _ _) fun _ => ?_
    refine InStep.seq ?_ fun _ => inStep_pure rfl
    exact InStep.seq (Image.writeTo_blind _ _ _) fun _ => inStep_pure rfl

/-- **The secret does not leak.** Two runs that are told the same but for the secret of the token, with
programs that take no notice of it, end alike, with the same result or the same fault. They tell the same at
every level and leave the same files. What programs were asked is the same but for the secret, and the table
of the configuration does not show it. -/
theorem sign_hides (hp : IsPassable p) (hq : IsPassable q) (told : c.SameBut p q c')
    (alike : w.SameBut p q w') (ignores : w.IgnoresSecret p q) :
    (c'.sign w').1 = (c.sign w).1 ∧ (c.sign w).2.SameBut p q (c'.sign w').2 ∧
      c'.toTable = c.toTable := by
  have load : AreTwins p q Eq (Image.load (c.get .image).display)
      (Image.load (c'.get .image).display) := by
    rw [told.eq (·.get .image) fun _ _ => rfl]
    exact Image.load_blind _
  have signs : AreTwins p q Eq c.sign c'.sign := by
    refine inStep_sign (told.eq validate fun _ _ => rfl) (told.eq digestAlgorithm fun _ _ => rfl)
      (told.eq result fun _ _ => rfl) tell_blind load told.identityRequest fun r r' image a same => ?_
    rw [told.eq body fun _ _ => rfl]
    exact Identity.inStep_use same fun i => body_blind hp hq c image a i
  obtain ⟨ended, left⟩ := signs.step w w' ⟨alike, ignores⟩
  exact ⟨ended.eq, left.toSameBut, told.eq toTable fun _ _ => rfl⟩

/-! ## Two secrets -/

/-- The short run with a token key and a secret. -/
def secretRun (secret : String) : Configuration :=
  (unnamedKeyRun.set .key (.text "pkcs11:object=k")).set .pin (.text secret)

/-- Surroundings with a tool that signs with the short key, whatever secret it is given. -/
def signingSurroundings : World :=
  { tooledSurroundings with
    respond := fun _ _ r =>
      ⟨0, [], Rsa.sign? Signature.shortKey.1 Signature.shortKey.2 .sha256 r.input⟩ }

/-- Whether a run succeeds and asks its tool once, with the given last argument. -/
def asksLast (c : Configuration) (w : World) (last : String) : Bool :=
  match c.sign w with
  | (.ok _, w') => w'.calls.map (·.request.arguments.getLast?) = [some (.word last)]
  | _ => false

/-- What the check for a run with a last argument has found is a run that succeeds. -/
theorem exists_sign_of_asksLast {last : String} (h : asksLast c w last = true) :
    ∃ r w₁, c.sign w = (.ok r, w₁) := by
  unfold asksLast at h
  split at h
  · exact ⟨_, _, ‹_›⟩
  · cases h

set_option maxRecDepth 100000 in
/-- The run of the example succeeds, and its tool is given the secret as the last argument. -/
theorem asksLast_secretRun : asksLast (secretRun "1234") signingSurroundings "1234" = true := by
  decide +kernel

/-- A run hands its secret to a tool and succeeds. It does the same with another secret. -/
theorem sign_hides_secretRun :
    asksLast (secretRun "1234") signingSurroundings "1234" = true ∧
    ∃ r w₁ w₂, (secretRun "1234").sign signingSurroundings = (.ok r, w₁) ∧
      (secretRun "5678").sign signingSurroundings = (.ok r, w₂) ∧ w₁.SameBut "1234" "5678" w₂ ∧
      (secretRun "5678").toTable = (secretRun "1234").toTable := by
  have told : (secretRun "1234").SameBut "1234" "5678" (secretRun "5678") := .secret _
  have alike : signingSurroundings.SameBut "1234" "5678" signingSurroundings :=
    ⟨rfl, fun _ _ => rfl, .inl rfl, .nil, rfl, rfl, rfl, .nil, rfl⟩
  have ignores : signingSurroundings.IgnoresSecret "1234" "5678" := by
    intro program before r r' same
    cases same <;> rfl
  obtain ⟨ended, left, shown⟩ :=
    sign_hides ⟨by decide, by decide⟩ ⟨by decide, by decide⟩ told alike ignores
  obtain ⟨r, w₁, ran⟩ := exists_sign_of_asksLast asksLast_secretRun
  rcases ran' : (secretRun "5678").sign signingSurroundings with ⟨o, w₂⟩
  rw [ran, ran'] at ended left
  obtain rfl : o = .ok r := ended
  exact ⟨asksLast_secretRun, r, w₁, w₂, ran, rfl, left, shown⟩

end Configuration

end ImageSigning
