import ImageSigning.Proofs.Blame
import ImageSigning.Proofs.Identity
import ImageSigning.Proofs.Lifecycle

/-!
# Settings that no identity can be opened with

Opening an identity looks at three settings: the engine's name, the format of the key's reference and,
for a key on a token, what the reference names. The engine is looked up first. The reference is read last,
when the engine is in session and the certificate's key was read, so it is to blame only where these are
there. For what goes wrong before, other things are to blame than settings.

* **`Provider.session_endsWith`** — the end of a session is that of its start or that of its block.
* **`Provider.loadFromToken_endsWith`** — when a reference to a token key is to blame.
* **`IdentityRequest.RefusedWith`** — what can be wrong with the settings of an identity.
* **`Identity.use_endsWith_configuration`** — opening an identity ends with that, and with nothing else of
  the kind.
-/

namespace ImageSigning

open Run

/-! ## Providers -/

namespace Provider

variable {n : Nat} {w : World} {p : Provider} {q : ConfigurationProblem}

/-- Shutting a provider down always succeeds. -/
theorem exists_shutDown (n : Nat) (w : World) : ∃ w', shutDown n w = (.ok (), w') := by
  unfold shutDown
  rw [bind_of_ok (get_eq_ok.2 ⟨rfl, rfl⟩)]
  rcases w.providers[n]? with _ | _ | e
  · exact ⟨w, rfl⟩
  · exact ⟨w, rfl⟩
  · dsimp only
    unfold shutDownEngine
    rcases e.session with _ | s
    · exact ⟨w, rfl⟩
    · exact ⟨_, rfl⟩

/-- A session ends with the fault of its start or, where that succeeds, of its block. -/
theorem session_endsWith {α : Type} {block : Run α} {f : Fault} :
    EndsWith ((p.source n).session block) w f ↔
      EndsWith (setUp n) w f ∨ ∃ w₁, setUp n w = (.ok (), w₁) ∧ EndsWith block w₁ f := by
  constructor
  · rintro ⟨w', ran⟩
    rcases start : setUp n w with ⟨e | ⟨⟩, w₁⟩
    · rw [KeySource.session_of_error start] at ran
      obtain ⟨same, -⟩ := Prod.mk.inj ran
      exact .inl ⟨w₁, by rw [start, Except.error.inj same]⟩
    · rcases inner : block w₁ with ⟨o, w₂⟩
      obtain ⟨w₃, shut⟩ := exists_shutDown n w₂
      rw [KeySource.session_of_ok start inner shut] at ran
      obtain ⟨rfl, -⟩ := Prod.mk.inj ran
      exact .inr ⟨w₁, rfl, w₂, inner⟩
  · rintro (⟨w₁, start⟩ | ⟨w₁, start, w₂, inner⟩)
    · exact ⟨w₁, KeySource.session_of_error start⟩
    · obtain ⟨w₃, shut⟩ := exists_shutDown n w₂
      have ended : (p.source n).session block w = (.ok () >>= fun _ => .error f, w₃) :=
        KeySource.session_of_ok start inner shut
      exact ⟨w₃, ended⟩

/-- That a module is missing is no problem of the configuration. -/
theorem checkModule_ne_configuration {fs : FileSystem} {module : Option String} :
    checkModule fs module ≠ .error (.failure (.configuration q)) := by
  unfold checkModule
  split
  · simp
  · split <;> simp

/-- Making a provider ready blames no setting. -/
theorem acceptsSettings_setUp (n : Nat) : AcceptsSettings (setUp n) := by
  unfold setUp
  refine acceptsSettings_get.bind fun v => ?_
  split
  · unfold setUpEngine
    refine AcceptsSettings.unless (by simp) (acceptsSettings_get.bind fun v => ?_)
    split
    · exact acceptsSettings_fail (by simp)
    · refine AcceptsSettings.bind ?_ fun _ => ?_
      · exact acceptsSettings_lift_id fun _ => checkModule_ne_configuration
      · exact (acceptsSettings_modify _).bind fun _ => acceptsSettings_tell _
  · exact acceptsSettings_pure _

/-- An engine's name is the one of its settings that can be wrong. -/
theorem ofName_eq_configuration {name : String} {options : List (String × Value)}
    {environment : List (String × String)} :
    ofName (some name) options environment = .error (.failure (.configuration q)) ↔
      Text.isNameInAnyCase KeyProblem.engineName name = false ∧ q = .unknownEngine name := by
  unfold ofName
  rcases known : Text.isNameInAnyCase KeyProblem.engineName name with _ | _
  · simp [known, eq_comm (a := q)]
  · cases EngineSettings.ofOptions? options <;> simp [known]

/-- A name stands for no key files. -/
theorem ofName_ne_files {name : String} {options : List (String × Value)}
    {environment : List (String × String)} : ofName (some name) options environment ≠ .ok files := by
  unfold ofName
  dsimp only
  split
  · simp
  · split <;> simp

/-- A key's file is read in the formats for files. -/
theorem acceptsSettings_loadFromFile {path : Value} {format : KeyFormat} {password : Option Bytes}
    (file : format ≠ .engine) : AcceptsSettings (loadFromFile path format password) := by
  unfold loadFromFile
  rw [if_neg file]
  refine (acceptsSettings_text _).bind fun path => acceptsSettings_get.bind fun v => ?_
  refine AcceptsSettings.bind ?_ fun key => acceptsSettings_pure _
  exact acceptsSettings_lift_id fun _ => InputFile.privateKey_ne_configuration

/-- Taking the text of a reference blames none. -/
theorem acceptsSettings_referenceText (v : Value) : AcceptsSettings (referenceText v) := by
  cases v with
  | text s => exact acceptsSettings_pure s
  | _ => exact acceptsSettings_defect _

/-- The text of a reference is the one that it is, if it is a text. -/
theorem referenceText_eq_ok {v : Value} {s : String} {w' : World} :
    referenceText v w = (.ok s, w') ↔ v = .text s ∧ w = w' := by
  cases v <;> simp [referenceText, pure_eq_ok, not_defect_eq_ok]

/-- A key on a token ends the run with a problem of the configuration exactly if the certificate's key
can be read and the reference names no key. -/
theorem loadFromToken_endsWith {reference : Value} {format : KeyFormat} {c : Certificate}
    {password : Option Bytes} :
    EndsWith (loadFromToken n reference format c password) w (.failure (.configuration q)) ↔
      format = .engine ∧ (∃ key, c.publicKey = .ok key) ∧
        ∃ s, reference = .text s ∧ KeyReference.attributes s = .error q := by
  unfold loadFromToken
  by_cases engine : format = .engine
  · rw [if_neg (not_not_intro engine)]
    constructor
    · intro failed
      rcases endsWith_bind.1 failed with failed | ⟨key, w₁, known, failed⟩
      · exact (acceptsSettings_lift_defect _ _ _ _ failed).elim
      obtain ⟨known, -⟩ := lift_eq_ok.1 known
      rcases endsWith_bind.1 failed with failed | ⟨s, w₂, named, failed⟩
      · exact (acceptsSettings_referenceText _ _ _ failed).elim
      rcases endsWith_bind.1 failed with failed | ⟨_, w₃, -, failed⟩
      · obtain ⟨e, unnamed, same⟩ := endsWith_lift.1 failed
        obtain rfl := Failure.configuration.inj (Fault.failure.inj same)
        exact ⟨engine, ⟨key, known⟩, s, (referenceText_eq_ok.1 named).1, unnamed⟩
      · exact (acceptsSettings_pure _ _ _ failed).elim
    · rintro ⟨-, ⟨key, known⟩, s, rfl, unnamed⟩
      have refused : lift (fun p => .failure (.configuration p)) (KeyReference.attributes s) w
          = (.error (.failure (.configuration q)), w) := by
        rw [lift_eq, unnamed]
        rfl
      rw [known]
      refine ⟨w, (bind_of_ok rfl).trans ((bind_of_ok rfl).trans (bind_of_error refused))⟩
  · rw [if_pos engine]
    constructor
    · intro failed
      exact (acceptsSettings_loadFromFile engine _ _ failed).elim
    · rintro ⟨named, -⟩
      exact (engine named).elim

end Provider

/-! ## Opening an identity -/

namespace IdentityRequest

/-- A reference to a token key that is read and names no key: the engine is ready, and the certificate
with its key is there. -/
def HasUnnamedKey (r : IdentityRequest) (e : Engine) (fs : FileSystem)
    (environment : List (String × String)) (p : ConfigurationProblem) : Prop :=
  (∃ tool, Provider.readiness e fs environment = .ok tool) ∧
    ∃ certificate, r.HasCertificate fs certificate ∧
      r.format = .engine ∧ (∃ key, certificate.publicKey = .ok key) ∧
      ∃ reference, r.key = .text reference ∧ KeyReference.attributes reference = .error p

/-- What is wrong with the settings that an identity is asked for with, so that there is none. -/
inductive RefusedWith (r : IdentityRequest) (fs : FileSystem) (environment : List (String × String)) :
    ConfigurationProblem → Prop
  /-- The key is in the format of engines, and there is none. -/
  | engineRequired (files : r.origin = .files) (format : r.format = .engine) :
      RefusedWith r fs environment .engineRequired
  /-- The engine's name is unknown. -/
  | unknownEngine {name : String} {options : List (String × Value)}
      (engine : r.origin = .engine name options)
      (unknown : Text.isNameInAnyCase KeyProblem.engineName name = false) :
      RefusedWith r fs environment (.unknownEngine name)
  /-- The reference to a token key names none. -/
  | unnamedKey {e : Engine} {p : ConfigurationProblem} (asked : r.AsksFor environment (.token e))
      (unnamed : r.HasUnnamedKey e fs environment p) : RefusedWith r fs environment p

end IdentityRequest

namespace Identity

variable {α : Type} {r : IdentityRequest} {s : KeySource} {block : Identity → Run α}
  {w w' : World} {f : Fault} {q : ConfigurationProblem}

/-- Loading an identity ends with a problem of the configuration exactly if the certificate is there and
loading the key does. -/
theorem load_endsWith : EndsWith (load s r) w (.failure (.configuration q)) ↔
    ∃ certificate, r.HasCertificate w.files certificate ∧
      EndsWith (s.loadKey r.key r.format certificate r.password) w (.failure (.configuration q)) := by
  unfold load
  constructor
  · intro failed
    rcases endsWith_bind.1 failed with failed | ⟨path, w₁, named, failed⟩
    · exact (acceptsSettings_text _ _ _ failed).elim
    obtain ⟨certificateText, rfl⟩ := text_eq_ok.1 named
    rcases endsWith_bind.1 failed with failed | ⟨v, w₁, got, failed⟩
    · exact (acceptsSettings_get _ _ failed).elim
    obtain ⟨rfl, rfl⟩ := get_eq_ok.1 got
    rcases endsWith_bind.1 failed with failed | ⟨c, w₁, lifted, failed⟩
    · have read : AcceptsSettings (lift id (InputFile.certificate w.files path)) :=
        acceptsSettings_lift_id fun _ => InputFile.certificate_ne_configuration
      exact (read _ _ failed).elim
    obtain ⟨found, rfl⟩ := lift_eq_ok.1 lifted
    refine ⟨c, ⟨path, certificateText, found⟩, ?_⟩
    rcases endsWith_bind.1 failed with failed | ⟨key, w₁, -, failed⟩
    · exact failed
    · have described := (acceptsSettings_lift_defect id c.keySummary).bind fun summary =>
        (acceptsSettings_tell (.identityOpened summary.subject summary.label s.name)).bind fun _ =>
          acceptsSettings_pure (⟨key, c, s.kind, r.key.display⟩ : Identity)
      exact (described _ _ failed).elim
  · rintro ⟨c, ⟨path, named, found⟩, w₁, failed⟩
    have read : lift id (InputFile.certificate w.files path) w = (.ok c, w) :=
      lift_eq_ok.2 ⟨found, rfl⟩
    rw [named, text_bind]
    refine ⟨w₁, (bind_of_ok (get_eq_ok.2 ⟨rfl, rfl⟩)).trans ?_⟩
    exact (bind_of_ok read).trans (bind_of_error failed)

/-- No setting is to blame for what is wrong with key files. -/
theorem acceptsSettings_load_files {n : Nat} (file : r.format ≠ .engine) :
    AcceptsSettings (load (Provider.files.source n) r) := by
  intro v p failed
  obtain ⟨c, -, failed⟩ := load_endsWith.1 failed
  exact Provider.acceptsSettings_loadFromFile file _ _ failed

/-- With an engine a setting is to blame exactly for such a reference. -/
theorem session_token_endsWith {n : Nat} {e : Engine} (here : w.providers[n]? = some (.token e))
    (accepts : ∀ i, AcceptsSettings (block i)) :
    EndsWith (((Provider.token e).source n).session (load ((Provider.token e).source n) r >>= block)) w
      (.failure (.configuration q)) ↔ r.HasUnnamedKey e w.files w.environment q := by
  have start := Provider.setUpEngine_eq n e w
  rw [← Provider.setUp_of_token here] at start
  rw [Provider.session_endsWith]
  constructor
  · rintro (failed | ⟨w₁, started, failed⟩)
    · exact (Provider.acceptsSettings_setUp _ _ _ failed).elim
    rcases ready : Provider.readiness e w.files w.environment with f | tool
    · rw [start, ready] at started
      cases started
    · rw [start, ready] at started
      obtain ⟨-, rfl⟩ := Prod.mk.inj started
      rcases endsWith_bind.1 failed with failed | ⟨i, w₂, -, failed⟩
      · obtain ⟨c, held, failed⟩ := load_endsWith.1 failed
        exact ⟨⟨tool, ready⟩, c, held, Provider.loadFromToken_endsWith.1 failed⟩
      · exact (accepts i _ _ failed).elim
  · rintro ⟨⟨tool, ready⟩, c, held, named⟩
    rw [ready] at start
    refine .inr ⟨_, start, endsWith_bind.2 (.inl (load_endsWith.2 ⟨c, held, ?_⟩))⟩
    exact Provider.loadFromToken_endsWith.2 named

/-- With a provider that is made, a setting is to blame exactly if it is an engine and the reference names
no key. -/
theorem use_endsWith_of_asked {p : Provider} (asked : r.AsksFor w.environment p)
    (able : r.origin = .files → r.format ≠ .engine) (accepts : ∀ i, AcceptsSettings (block i)) :
    EndsWith (use r block) w (.failure (.configuration q)) ↔
      ∃ e, p = .token e ∧ r.HasUnnamedKey e w.files w.environment q := by
  have opened : use r block w = (p.source w.providers.length).session
      (load (p.source w.providers.length) r >>= block) { w with providers := w.providers ++ [p] } :=
    bind_of_ok (provider_of_asked asked able)
  unfold EndsWith
  rw [opened]
  cases p with
  | files =>
    have file : r.format ≠ .engine := by
      rcases asked with ⟨origin, -⟩ | ⟨name, options, -, found⟩
      · exact able origin
      · exact (Provider.ofName_ne_files found).elim
    constructor
    · intro failed
      rcases Provider.session_endsWith.1 failed with failed | ⟨w₁, -, failed⟩
      · exact (Provider.acceptsSettings_setUp _ _ _ failed).elim
      · exact ((acceptsSettings_load_files file).bind accepts _ _ failed).elim
    · rintro ⟨e, other, -⟩
      cases other
  | token e =>
    refine (session_token_endsWith (List.getElem?_concat_length ..) accepts).trans ?_
    constructor
    · exact fun unnamed => ⟨e, rfl, unnamed⟩
    · rintro ⟨e', same, unnamed⟩
      obtain rfl := Provider.token.inj same
      exact unnamed

/-- **What is wrong with the settings of an identity.** Opening one ends with a problem of the
configuration exactly if it is refused with that problem, whatever is done with the identity. -/
theorem use_endsWith_configuration (notGiven : ∀ s, r.origin ≠ .given s)
    (accepts : ∀ i, AcceptsSettings (block i)) :
    EndsWith (use r block) w (.failure (.configuration q)) ↔
      r.RefusedWith w.files w.environment q := by
  -- without a provider there is one end only
  have only {f : Fault} (unprovided : provider r w = (.error f, w))
      (failed : EndsWith (use r block) w (.failure (.configuration q))) :
      f = .failure (.configuration q) := by
    obtain ⟨w', ran⟩ := failed
    rw [use_of_error unprovided] at ran
    exact Except.error.inj (Prod.mk.inj ran).1
  constructor
  · intro failed
    rcases origin : r.origin with _ | ⟨name, options⟩ | s
    · by_cases format : r.format = .engine
      · have refused := only (by rw [provider_of_files origin, if_pos format]) failed
        obtain rfl := Failure.configuration.inj (Fault.failure.inj refused)
        exact .engineRequired origin format
      · have asked : r.AsksFor w.environment .files := .inl ⟨origin, rfl⟩
        obtain ⟨e, other, -⟩ := (use_endsWith_of_asked asked (fun _ => format) accepts).1 failed
        cases other
    · rcases found : Provider.ofName (some name) options w.environment with f | p
      · obtain rfl := only (by rw [provider_of_engine origin, found]) failed
        obtain ⟨unknown, rfl⟩ := Provider.ofName_eq_configuration.1 found
        exact .unknownEngine origin unknown
      · have asked : r.AsksFor w.environment p := .inr ⟨name, options, origin, found⟩
        obtain ⟨e, rfl, unnamed⟩ :=
          (use_endsWith_of_asked asked (by simp [origin]) accepts).1 failed
        exact .unnamedKey asked unnamed
    · exact (notGiven s origin).elim
  · intro refused
    cases refused with
    | engineRequired files format =>
      exact ⟨w, use_of_error (by rw [provider_of_files files, if_pos format])⟩
    | unknownEngine engine unknown =>
      exact ⟨w, use_of_error (provider_of_unknown engine unknown w)⟩
    | unnamedKey asked unnamed =>
      have able : r.origin = .files → r.format ≠ .engine := by
        intro files
        rcases asked with ⟨-, other⟩ | ⟨_, _, other, -⟩
        · cases other
        · rw [files] at other
          cases other
      exact (use_endsWith_of_asked asked able accepts).2 ⟨_, rfl, unnamed⟩

end Identity

end ImageSigning
