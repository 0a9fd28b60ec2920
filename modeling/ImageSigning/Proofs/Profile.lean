import ImageSigning.Proofs.Configuration
import ImageSigning.Proofs.Precedence

/-!
# Profiles that are odd

A profile that is refused is refused with a report on the configuration, and so are the settings that come
of it; but some profiles end in a defect instead, which nobody reports. They are told here one by one: the
content is no text, or holds a scalar that is not what its tag says; unknown keys have no order among each
other; an integer that is to be shown is too long; the engine is no name. Nothing else in a profile,
whatever its content and its values are, keeps the checks from ending with a result or a report.

* **`Table.Oddity`**, **`Configuration.Oddity`** — tables that are neither accepted nor refused with a
  report, and settings that cannot even be checked.
* **`ofProfile_cases`**, **`validate_cases`** — why either step fails.
* **`ofProfile_of_oddity`**, **`validate_of_oddity`** — what is odd ends so.
* **`profile_outcome`** — every value and every content of a file, with the checks behind it.
-/

namespace ImageSigning

/-! ## What is odd -/

/-- What is odd about the table of a profile, so that it is neither accepted nor refused with a report. -/
inductive Table.Oddity (t : Table) : Defect → Prop
  /-- A setting in the section for a token is too long to become text. -/
  | longSetting (formed : t.HasSection) (long : ¬ t.IsWritable) : Oddity t .numberTooLong
  /-- Two unknown keys have no order, so that they cannot be told in order. -/
  | unordered (formed : t.HasSection) (writable : t.IsWritable)
      (apart : ¬ t.unknownKeys.Pairwise fun k l => (k.less? l).isSome = true) : Oddity t .wrongType
  /-- An unknown key is too long to be told. -/
  | longKey (formed : t.HasSection) (writable : t.IsWritable)
      (ordered : t.unknownKeys.Pairwise fun k l => (k.less? l).isSome = true)
      {k : Value} (unknown : k ∈ t.unknownKeys) (long : k.isWritable = false) :
      Oddity t .numberTooLong

namespace Configuration

/-- Whether there are an image, a certificate and a key. -/
structure IsComplete (c : Configuration) : Prop where
  image : (c.get .image).isSet = true
  certificate : (c.get .certificate).isSet = true
  key : (c.get .key).isSet = true

/-- What is odd about settings, so that they cannot even be checked. Settings are checked one by one, so
that nothing in front may be refused. -/
inductive Oddity (c : Configuration) : Defect → Prop
  /-- The format of the key is too long to become a name. -/
  | keyFormat (complete : c.IsComplete) (long : (c.get .keyFormat).isWritable = false) :
      Oddity c .numberTooLong
  /-- The engine is neither text nor octets, and has no other case. -/
  | engine (complete : c.IsComplete) {f : KeyFormat} (format : c.keyFormat = .ok f)
      (given : (c.get .engine).isSet = true) (noText : ∀ s, c.get .engine ≠ .text s)
      (noOctets : ∀ b, c.get .engine ≠ .octets b) : Oddity c .noSuchOperation
  /-- The digest is too long to become a name. -/
  | digest (complete : c.IsComplete) {f : KeyFormat} (format : c.keyFormat = .ok f)
      (asked : f = .engine → (c.get .engine).isSet = true) (known : c.checkEngine = .ok ())
      (long : (c.get .digest).isWritable = false) : Oddity c .numberTooLong

/-- The value that the content of a profile stands for: that of its text, or an empty table. -/
def HoldsValue (b : Bytes) (v : Value) : Prop :=
  ∃ s w, Utf8.decode? b = some s ∧ valueOfText s = .ok w ∧
    v = if w.isSet then w else .table []

/-- The configuration with what the other sources give. -/
def withSources (c : Configuration) (environment arguments : List (String × Value)) : Configuration :=
  (c.withEnvironment environment).withArguments arguments

/-- What is odd about the value of a profile, so that neither taking it for one nor checking the settings
ends with a result or a report. -/
inductive ValueOddity (v : Value) (environment arguments : List (String × Value)) : Defect → Prop
  /-- It is an odd table. -/
  | table {t : Table} {d : Defect} (is : v = .table t) (odd : t.Oddity d) :
      ValueOddity v environment arguments d
  /-- It is accepted, and makes odd settings. -/
  | settings {c : Configuration} {d : Defect} (accepted : ofProfile v = .ok c)
      (odd : (c.withSources environment arguments).Oddity d) : ValueOddity v environment arguments d

/-- What is odd about the content of a profile. -/
inductive ContentOddity (b : Bytes) (environment arguments : List (String × Value)) : Defect → Prop
  /-- It is no text; it is decoded as a whole before the text is read. -/
  | notText (undecoded : Utf8.decode? b = none) : ContentOddity b environment arguments .notText
  /-- A scalar in it is not what its tag says. -/
  | scalar {s : String} {o : Yaml.Oddity} (decoded : Utf8.decode? b = some s)
      (odd : valueOfText s = .error (.scalar o)) :
      ContentOddity b environment arguments (.scalar o)
  /-- It holds an odd value. -/
  | value {v : Value} {d : Defect} (holds : HoldsValue b v) (odd : ValueOddity v environment arguments d) :
      ContentOddity b environment arguments d

variable {c : Configuration} {t : Table} {v : Value} {b : Bytes} {f : Fault} {d : Defect}

/-! ## Tables -/

/-- Unknown keys that cannot be put in order end with a defect. -/
theorem checkKeys_of_unordered
    (apart : ¬ t.unknownKeys.Pairwise fun k l => (k.less? l).isSome = true) :
    checkKeys t = .error (.defect .wrongType) := by
  have unsorted : Value.sorted? t.unknownKeys = none := if_neg (mt Value.areOrdered_iff.1 apart)
  have nonempty : ¬ t.unknownKeys.isEmpty := by
    intro empty
    rw [List.isEmpty_iff.1 empty] at apart
    exact apart .nil
  unfold Table.unknownKeys at nonempty unsorted
  unfold checkKeys
  dsimp only
  rw [if_neg nonempty, unsorted]

/-- An unknown key that is too long to be written ends with a defect. -/
theorem checkKeys_of_longKey
    (ordered : t.unknownKeys.Pairwise fun k l => (k.less? l).isSome = true) {k : Value}
    (unknown : k ∈ t.unknownKeys) (long : k.isWritable = false) :
    checkKeys t = .error (.defect .numberTooLong) := by
  obtain ⟨keys, sorted⟩ : ∃ keys, Value.sorted? t.unknownKeys = some keys :=
    ⟨_, if_pos (Value.areOrdered_iff.2 ordered)⟩
  have unshown : ¬ (Value.series keys).isWritable = true := by
    rw [Value.isWritable, Value.areWritable_iff]
    intro all
    rw [all k ((Value.mem_of_sorted? sorted).2 unknown)] at long
    cases long
  have nonempty : ¬ t.unknownKeys.isEmpty := by
    intro empty
    rw [List.isEmpty_iff.1 empty] at unknown
    cases unknown
  unfold Table.unknownKeys at nonempty sorted
  unfold checkKeys
  dsimp only
  rw [if_neg nonempty, sorted]
  exact if_neg unshown

/-- A profile is refused with a report on the configuration, or its table is odd. -/
theorem ofProfile_cases (h : ofProfile v = .error f) :
    (∃ p, f = .failure (.configuration p)) ∨ ∃ t d, v = .table t ∧ Table.Oddity t d ∧ f = .defect d := by
  cases v with
  | table t =>
    by_cases formed : Table.HasSection t
    · by_cases writable : Table.IsWritable t
      · rw [ofProfile_of_isWritable formed writable] at h
        by_cases ordered : (Table.unknownKeys t).Pairwise fun k l => (k.less? l).isSome = true
        · by_cases shown : ∀ k ∈ Table.unknownKeys t, k.isWritable = true
          · by_cases known : Table.unknownKeys t = []
            · rw [checkKeys_eq_ok_iff.2 known] at h
              cases h
            · obtain ⟨keys, -, refused⟩ := checkKeys_of_ordered ordered shown known
              rw [refused] at h
              exact .inl ⟨_, (Except.error.inj h).symm⟩
          · push Not at shown
            obtain ⟨k, unknown, long⟩ := shown
            have long' : k.isWritable = false := by simpa using long
            rw [checkKeys_of_longKey ordered unknown long'] at h
            exact .inr ⟨t, _, rfl, .longKey formed writable ordered unknown long',
              (Except.error.inj h).symm⟩
        · rw [checkKeys_of_unordered ordered] at h
          exact .inr ⟨t, _, rfl, .unordered formed writable ordered, (Except.error.inj h).symm⟩
      · rw [ofProfile_of_not_isWritable formed writable] at h
        exact .inr ⟨t, _, rfl, .longSetting formed writable, (Except.error.inj h).symm⟩
    · rw [ofProfile_of_not_hasSection formed] at h
      exact .inl ⟨_, (Except.error.inj h).symm⟩
  | _ => exact .inl ⟨_, (Except.error.inj h).symm⟩

/-- A profile with an odd table ends in that defect. -/
theorem ofProfile_of_oddity (h : t.Oddity d) : ofProfile (.table t) = .error (.defect d) := by
  cases h with
  | longSetting formed long => exact ofProfile_of_not_isWritable formed long
  | unordered formed writable apart =>
    rw [ofProfile_of_isWritable formed writable, checkKeys_of_unordered apart]
    rfl
  | longKey formed writable ordered unknown long =>
    rw [ofProfile_of_isWritable formed writable, checkKeys_of_longKey ordered unknown long]
    rfl

/-! ## Settings -/

/-- A setting that is set is not asked for. -/
theorem require_of_isSet {s : Setting} {p : ConfigurationProblem} (given : (c.get s).isSet = true) :
    c.require s p = .ok () :=
  if_pos given

/-- A setting that is not set is asked for. -/
theorem require_of_not_isSet {s : Setting} {p : ConfigurationProblem} (unset : ¬ (c.get s).isSet = true) :
    c.require s p = .error (.failure (.configuration p)) :=
  if_neg unset

/-- Writing a value fails only for its length. -/
theorem requireWritable_eq_error {s : Setting} (h : c.requireWritable s = .error f) :
    (c.get s).isWritable = false ∧ f = .defect .numberTooLong := by
  unfold requireWritable at h
  split at h
  · cases h
  · rename_i long
    exact ⟨by simpa using long, (Except.error.inj h).symm⟩

/-- Writing a value fails where it is too long. -/
theorem requireWritable_of_long {s : Setting} (long : (c.get s).isWritable = false) :
    c.requireWritable s = .error (.defect .numberTooLong) :=
  if_neg (by simp [long])

/-- A key format is refused with a report, or is too long to be written. -/
theorem keyFormat_cases (h : c.keyFormat = .error f) : (∃ p, f = .failure (.configuration p)) ∨
    (c.get .keyFormat).isWritable = false ∧ f = .defect .numberTooLong := by
  unfold keyFormat at h
  rcases Outcome.bind_eq_error.1 h with h | ⟨_, -, h⟩
  · exact .inr (requireWritable_eq_error h)
  · obtain ⟨p, -, rfl⟩ := Outcome.mapError_eq_error.1 h
    exact .inl ⟨p, rfl⟩

/-- A digest algorithm is refused with a report, or is too long to be written. -/
theorem digestAlgorithm_cases (h : c.digestAlgorithm = .error f) :
    (∃ p, f = .failure (.configuration p)) ∨
      (c.get .digest).isWritable = false ∧ f = .defect .numberTooLong := by
  unfold digestAlgorithm at h
  rcases Outcome.bind_eq_error.1 h with h | ⟨_, -, h⟩
  · exact .inr (requireWritable_eq_error h)
  · dsimp only at h
    split at h
    · cases h
    · exact .inl ⟨_, (Except.error.inj h).symm⟩

/-- A value that is set and is neither text nor octets has no lower case. -/
theorem engineName_of_nameless (given : (c.get .engine).isSet = true)
    (noText : ∀ s, c.get .engine ≠ .text s) (noOctets : ∀ b, c.get .engine ≠ .octets b) :
    c.engineName = .error .noSuchOperation := by
  unfold engineName
  split
  · rename_i isNull
    rw [isNull] at given
    cases given
  · rename_i s named
    exact (noText s named).elim
  · rename_i b named
    exact (noOctets b named).elim
  · rfl

/-- An engine's name is refused with a report, or is no name at all. -/
theorem checkEngine_cases (h : c.checkEngine = .error f) : (∃ p, f = .failure (.configuration p)) ∨
    (c.get .engine).isSet = true ∧ (∀ s, c.get .engine ≠ .text s) ∧
      (∀ b, c.get .engine ≠ .octets b) ∧ f = .defect .noSuchOperation := by
  unfold checkEngine at h
  split at h
  · rename_i given
    rcases Outcome.bind_eq_error.1 h with h | ⟨name, -, h⟩
    · obtain ⟨d, nameless, rfl⟩ := Outcome.mapError_eq_error.1 h
      unfold engineName at nameless
      split at nameless
      · cases nameless
      · cases nameless
      · cases nameless
      · rename_i noText noOctets
        obtain rfl := Except.error.inj nameless
        exact .inr ⟨given, noText, noOctets, rfl⟩
    · cases name with
      | none => cases h
      | some name =>
        dsimp only at h
        split at h
        · exact .inl ⟨_, (Except.error.inj h).symm⟩
        · cases h
  · cases h

/-- A value that is no name at all ends with a defect. -/
theorem checkEngine_of_nameless (given : (c.get .engine).isSet = true)
    (noText : ∀ s, c.get .engine ≠ .text s) (noOctets : ∀ b, c.get .engine ≠ .octets b) :
    c.checkEngine = .error (.defect .noSuchOperation) := by
  unfold checkEngine
  rw [if_pos given, engineName_of_nameless given noText noOctets]
  rfl

/-- Without an image, settings are refused whatever else they are. -/
theorem validate_of_no_image (noImage : ¬ (c.get .image).isSet = true) :
    c.validate = .error (.failure (.configuration .noImage)) := by
  unfold validate
  dsimp only
  rw [require_of_not_isSet noImage]
  rfl

/-- Settings that are not complete are refused with a report. -/
theorem validate_of_not_isComplete (missing : ¬ c.IsComplete) :
    ∃ p, c.validate = .error (.failure (.configuration p)) := by
  by_cases image : (c.get .image).isSet = true
  · by_cases certificate : (c.get .certificate).isSet = true
    · have key : ¬ (c.get .key).isSet = true := fun key => missing ⟨image, certificate, key⟩
      refine ⟨.noKey, ?_⟩
      unfold validate
      dsimp only
      rw [require_of_isSet image, require_of_isSet certificate, require_of_not_isSet key]
      rfl
    · refine ⟨.noCertificate, ?_⟩
      unfold validate
      dsimp only
      rw [require_of_isSet image, require_of_not_isSet certificate]
      rfl
  · exact ⟨_, validate_of_no_image image⟩

/-- What is checked where nothing is missing. -/
theorem IsComplete.validate_eq (complete : c.IsComplete) : c.validate = (do
    let format ← c.keyFormat
    if format = .engine ∧ !(c.get .engine).isSet then
      throw (.failure (.configuration .engineRequired))
    c.checkEngine
    let _ ← c.digestAlgorithm) := by
  unfold validate
  dsimp only
  rw [require_of_isSet complete.image, require_of_isSet complete.certificate,
    require_of_isSet complete.key]
  rfl

/-- Settings are refused with a report on the configuration, or they are odd. -/
theorem validate_cases (h : c.validate = .error f) :
    (∃ p, f = .failure (.configuration p)) ∨ ∃ d, c.Oddity d ∧ f = .defect d := by
  by_cases complete : c.IsComplete
  · rw [complete.validate_eq] at h
    rcases Outcome.bind_eq_error.1 h with h | ⟨format, formatNamed, h⟩
    · exact (keyFormat_cases h).imp_right fun ⟨long, same⟩ => ⟨_, .keyFormat complete long, same⟩
    split at h
    · exact .inl ⟨_, (Except.error.inj h).symm⟩
    rename_i asked
    rcases Outcome.bind_eq_error.1 h with h | ⟨_, known, h⟩
    · exact (checkEngine_cases h).imp_right fun ⟨given, noText, noOctets, same⟩ =>
        ⟨_, .engine complete formatNamed given noText noOctets, same⟩
    rcases Outcome.bind_eq_error.1 h with h | ⟨_, -, h⟩
    · refine (digestAlgorithm_cases h).imp_right fun ⟨long, same⟩ =>
        ⟨_, .digest complete formatNamed (fun engine => ?_) known long, same⟩
      by_contra missing
      exact asked ⟨engine, by simpa using missing⟩
    · cases h
  · obtain ⟨p, refused⟩ := validate_of_not_isComplete complete
    rw [refused] at h
    exact .inl ⟨p, (Except.error.inj h).symm⟩

/-- Odd settings end in that defect. -/
theorem validate_of_oddity (h : c.Oddity d) : c.validate = .error (.defect d) := by
  cases h with
  | keyFormat complete long =>
    rw [complete.validate_eq, keyFormat, requireWritable_of_long long]
    rfl
  | engine complete format given noText noOctets =>
    rw [complete.validate_eq, format, checkEngine_of_nameless given noText noOctets]
    simp only [Outcome.ok_bind, given, Bool.not_true, Bool.false_eq_true, and_false, if_false]
    rfl
  | digest complete format asked known long =>
    rw [complete.validate_eq, format, known, digestAlgorithm, requireWritable_of_long long]
    simp only [Outcome.ok_bind]
    rw [if_neg fun refused => by simp [asked refused.1] at refused]
    rfl

/-! ## Values and contents -/

/-- Taking a value for a profile, and checking the settings that come of it and the other sources. -/
def checkValue (v : Value) (environment arguments : List (String × Value)) : Except Fault Unit := do
  let c ← ofProfile v
  (c.withSources environment arguments).validate

/-- The same with the value that the content of a profile holds. -/
def checkContent (path : String) (b : Bytes) (environment arguments : List (String × Value)) :
    Except Fault Unit := do
  let v ← readProfile path b
  checkValue v environment arguments

/-- A check whose defects are known: it ends with a result, a report on the configuration, or one of them. -/
theorem outcome_of_cases {x : Except Fault Unit} {odd : Defect → Prop}
    (failed : ∀ f, x = .error f →
      (∃ p, f = .failure (.configuration p)) ∨ ∃ d, odd d ∧ f = .defect d)
    (ends : ∀ d, odd d → x = .error (.defect d)) :
    (x = .ok () ∨ (∃ p, x = .error (.failure (.configuration p))) ∨ ∃ d, x = .error (.defect d)) ∧
      ∀ d, x = .error (.defect d) ↔ odd d := by
  refine ⟨?_, fun d => ⟨fun h => ?_, ends d⟩⟩
  · rcases x with f | ⟨⟩
    · rcases failed f rfl with ⟨p, rfl⟩ | ⟨d, -, rfl⟩
      · exact .inr (.inl ⟨p, rfl⟩)
      · exact .inr (.inr ⟨d, rfl⟩)
    · exact .inl rfl
  · rcases failed _ h with ⟨p, other⟩ | ⟨d', here, same⟩
    · cases other
    · obtain rfl := Fault.defect.inj same
      exact here

section
variable {environment arguments : List (String × Value)}

/-- The value of a profile is refused with a report, or with the defect of an oddity. -/
theorem checkValue_cases (h : checkValue v environment arguments = .error f) :
    (∃ p, f = .failure (.configuration p)) ∨
      ∃ d, ValueOddity v environment arguments d ∧ f = .defect d := by
  rcases Outcome.bind_eq_error.1 h with h | ⟨c, accepted, h⟩
  · exact (ofProfile_cases h).imp_right fun ⟨t, d, is, odd, same⟩ => ⟨d, .table is odd, same⟩
  · exact (validate_cases h).imp_right fun ⟨d, odd, same⟩ => ⟨d, .settings accepted odd, same⟩

/-- An oddity of the value ends with its defect. -/
theorem checkValue_of_oddity (h : ValueOddity v environment arguments d) :
    checkValue v environment arguments = .error (.defect d) := by
  cases h with
  | table is odd =>
    rw [checkValue, is, ofProfile_of_oddity odd]
    rfl
  | settings accepted odd =>
    rw [checkValue, accepted]
    exact validate_of_oddity odd

/-- A profile that holds a value is read as it. -/
theorem HoldsValue.readProfile_eq (h : HoldsValue b v) (path : String) : readProfile path b = .ok v := by
  obtain ⟨s, w, decoded, read, rfl⟩ := h
  rw [readProfile, decoded]
  dsimp only
  rw [read]

/-- The content of a profile is refused with a report, or with the defect of an oddity. -/
theorem checkContent_cases {path : String} (h : checkContent path b environment arguments = .error f) :
    (∃ p, f = .failure (.configuration p)) ∨
      ∃ d, ContentOddity b environment arguments d ∧ f = .defect d := by
  unfold checkContent readProfile at h
  rcases decoded : Utf8.decode? b with _ | s
  · rw [decoded] at h
    exact .inr ⟨_, .notText decoded, (Except.error.inj h).symm⟩
  · rw [decoded] at h
    dsimp only at h
    rcases read : valueOfText s with (p | o) | w
    · rw [read] at h
      exact .inl ⟨_, (Except.error.inj h).symm⟩
    · rw [read] at h
      exact .inr ⟨_, .scalar decoded read, (Except.error.inj h).symm⟩
    · rw [read] at h
      exact (checkValue_cases h).imp_right fun ⟨d, odd, same⟩ =>
        ⟨d, .value ⟨s, w, decoded, read, rfl⟩ odd, same⟩

/-- An oddity of the content ends with its defect. -/
theorem checkContent_of_oddity (path : String) (h : ContentOddity b environment arguments d) :
    checkContent path b environment arguments = .error (.defect d) := by
  cases h with
  | notText undecoded =>
    rw [checkContent, readProfile, undecoded]
    rfl
  | scalar decoded odd =>
    rw [checkContent, readProfile, decoded]
    dsimp only
    rw [odd]
    rfl
  | value holds odd =>
    rw [checkContent, holds.readProfile_eq path]
    exact checkValue_of_oddity odd

/-- No profile sets the image. -/
theorem get_image_of_accepted (h : ofProfile v = .ok c) : c.get .image = .null := by
  obtain ⟨t, rfl, -, rfl⟩ := ofProfile_eq_ok_iff.1 h
  have own : Setting.image.fromProfile t = none := rfl
  rw [get_ofTable, own]
  rfl

/-- What becomes of a file is what becomes of its content. -/
theorem ofFile_eq {fs : FileSystem} {path : String} (there : fs.leadsSomewhere path = .ok true)
    (held : fs.read (FileSystem.simplify path) = .ok b) :
    ofFile fs path = (readProfile path b >>= ofProfile) := by
  rw [ofFile, profileIn, there]
  dsimp only
  rw [held]

end

/-- A profile is accepted or refused with a report on the configuration, and so are the settings that come
of it and the other sources, unless it is odd; then there is no report. So it is with every value that is
taken for a profile and with every content of a file. A profile by itself is never enough: no image is named
in it. -/
theorem profile_outcome (fs : FileSystem) (path : String) (environment arguments : List (String × Value)) :
    (∀ v : Value,
      (checkValue v environment arguments = .ok () ∨
        (∃ p, checkValue v environment arguments = .error (.failure (.configuration p))) ∨
        ∃ d, checkValue v environment arguments = .error (.defect d)) ∧
      ∀ d, checkValue v environment arguments = .error (.defect d) ↔
        ValueOddity v environment arguments d) ∧
    ∀ b : Bytes, fs.leadsSomewhere path = .ok true → fs.read (FileSystem.simplify path) = .ok b →
      (let checked : Except Fault Unit := do
          let c ← ofFile fs path
          (c.withSources environment arguments).validate
        (checked = .ok () ∨ (∃ p, checked = .error (.failure (.configuration p))) ∨
          ∃ d, checked = .error (.defect d)) ∧
        ∀ d, checked = .error (.defect d) ↔ ContentOddity b environment arguments d) ∧
      ∀ c, ofFile fs path = .ok c → c.validate = .error (.failure (.configuration .noImage)) := by
  refine ⟨fun v => outcome_of_cases (fun _ => checkValue_cases) fun _ => checkValue_of_oddity,
    fun b there held => ⟨?_, ?_⟩⟩
  · have same : (do
        let c ← ofFile fs path
        (c.withSources environment arguments).validate) = checkContent path b environment arguments := by
      rw [ofFile_eq there held, checkContent]
      cases readProfile path b <;> rfl
    dsimp only
    rw [same]
    exact outcome_of_cases (fun _ => checkContent_cases) fun _ => checkContent_of_oddity path
  · intro c accepted
    rw [ofFile_eq there held] at accepted
    obtain ⟨v, -, accepted⟩ := Outcome.bind_eq_ok.1 accepted
    refine validate_of_no_image ?_
    rw [get_image_of_accepted accepted]
    decide

/-- A file with a profile that is no text. -/
def unreadableProfile : FileSystem := ⟨[(["p"], .file ⟨[0xff], 0o644, none⟩)], []⟩

/-- A profile that is no text ends in a defect by itself. So do unknown keys that have no order, and an
engine that is a number beside settings that are fine. -/
theorem profile_outcome_unreadable :
    (do (← ofFile unreadableProfile "p").validate) = .error (.defect .notText) ∧
    checkValue (.table [(.integer 1, .null), (.text "a", .null)]) [] [] = .error (.defect .wrongType) ∧
    checkValue (.table [(.text "key", .text "k"), (.text "cert", .text "c"), (.text "engine", .integer 5)])
      [] [("image_path", .text "i")] = .error (.defect .noSuchOperation) := by
  have there : unreadableProfile.leadsSomewhere "p" = .ok true := by
    decide +kernel
  have held : unreadableProfile.read (FileSystem.simplify "p") = .ok [0xff] := by
    decide +kernel
  have value (v : Value) (arguments : List (String × Value)) :=
    (profile_outcome unreadableProfile "p" [] arguments).1 v
  refine ⟨(((profile_outcome _ _ [] []).2 _ there held).1.2 _).2 (.notText (by decide)), ?_, ?_⟩
  · refine ((value _ _).2 _).2 (.table rfl (.unordered ?_ ?_ (by decide)))
    · rintro v ⟨⟩
    · rintro _ _ _ ⟨⟩
  · refine ((value _ _).2 _).2 (.settings rfl ?_)
    have format : KeyFormat.ofName "PEM" = .ok .pem := by decide
    refine .engine (f := .pem) ⟨rfl, rfl, rfl⟩ ?_ rfl nofun nofun
    change (KeyFormat.ofName "PEM").mapError (fun p => Fault.failure (.configuration p)) = .ok .pem
    rw [format]
    rfl

end Configuration

end ImageSigning
