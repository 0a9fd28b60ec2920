import ImageSigning.Proofs.InStep
import ImageSigning.Proofs.KeyReference
import ImageSigning.Proofs.Signing.Misconfiguration

/-!
# The query of a reference

The attributes of a token key are read from what stands before the question mark of a reference; what
stands behind it, where a secret may be, is passed over. So two runs whose references differ there only do
the same in the same surroundings: what they write, what they tell and what they ask a tool is the same. They
also end alike, except where the reference names no key: the failure quotes all of it.

* **`KeyReference.SamePath`** — references that differ behind the question mark only.
* **`KeyReference.attributes_samePath`** — they are read alike, or refused each in its own words.
* **`Identity.areAlike_use`** — what is done with a key goes alike, whichever of them asks for it.
* **`Configuration.sign_query`** — what the query of a reference can do.
-/

namespace ImageSigning

open Run

/-! ## References that differ in their query -/

namespace KeyReference

/-- References to token keys that are the same up to the first question mark. -/
structure SamePath (r r' : String) : Prop where
  isUri : r.startsWith scheme = true
  isUri' : r'.startsWith scheme = true
  front : (cut '?' r'.toList).1 = (cut '?' r.toList).1

variable {r r' : String}

/-- What stands before the question mark begins with the scheme. -/
theorem cut_scheme (rest : List Char) :
    (cut '?' (scheme.toList ++ rest)).1 = scheme.toList ++ (cut '?' rest).1 := by
  unfold cut
  exact List.takeWhile_append_of_pos (decide_ne_of_not_mem (by decide +kernel))

/-- References with the same path name the same attributes, or no key at all; then each is refused by
itself. -/
theorem attributes_samePath (h : SamePath r r') :
    (∃ found, attributes r = .ok found ∧ attributes r' = .ok found) ∨
      (attributes r = .error (.unnamedKey r) ∧ attributes r' = .error (.unnamedKey r')) := by
  obtain ⟨rest, written⟩ := String.startsWith_string_iff.1 h.isUri
  obtain ⟨rest', written'⟩ := String.startsWith_string_iff.1 h.isUri'
  have path : (cut '?' rest').1 = (cut '?' rest).1 := by
    have front := h.front
    rw [← written, ← written', cut_scheme, cut_scheme] at front
    exact List.append_cancel_left front
  have behind (rest : List Char) : (scheme.toList ++ rest).drop scheme.length = rest :=
    List.drop_left' rfl
  unfold attributes
  rw [h.isUri, h.isUri', ← written, ← written', behind, behind, path]
  simp only [Bool.not_true, Bool.false_eq_true, if_false]
  split_ifs
  · exact .inl ⟨_, rfl, rfl⟩
  · exact .inr ⟨rfl, rfl⟩

/-- What a run ends with where a reference names no key. -/
def unnamed (reference : String) : Fault := .failure (.configuration (.unnamedKey reference))

/-- Faults that are the same, or each quotes its own reference. -/
def Requoted (r r' : String) (f f' : Fault) : Prop := f = f' ∨ (f = unnamed r ∧ f' = unnamed r')

instance (r r' : String) : Std.Refl (Requoted r r') := ⟨fun _ => .inl rfl⟩

end KeyReference

open KeyReference

variable {r r' : String}

/-- Outcomes that are the same but for what they quote are the same, or that is all they do. -/
theorem eq_or_unnamed_of_agree {α : Type} {o o' : Except Fault α}
    (h : Agree (Requoted r r') Eq o o') :
    o' = o ∨ (o = .error (unnamed r) ∧ o' = .error (unnamed r')) := by
  cases h with
  | ok same => exact .inl (congrArg _ same.symm)
  | error quoted =>
    rcases quoted with rfl | ⟨rfl, rfl⟩
    · exact .inl rfl
    · exact .inr ⟨rfl, rfl⟩

/-! ## The key -/

/-- Runs in the same surroundings that end alike but for what they quote, and leave the same. -/
abbrev Run.AreAlike {α β : Type} (r r' : String) (Q : α → β → Prop) (x : Run α) (y : Run β) : Prop :=
  InStep Eq (Requoted r r') Q x y

/-- A run is alike to itself, whatever the two references are. -/
theorem areAlike_self {α : Type} (x : Run α) : AreAlike r r' Eq x x := by
  refine ⟨fun w w' same => ?_⟩
  rw [same]
  exact ⟨Agree.refl _, rfl⟩

/-- A provider's source loads the same key for two references with the same path. -/
theorem Provider.areAlike_loadKey (h : SamePath r r') (x : Provider) (n : Nat) (c : Certificate)
    (password : Option Bytes) :
    AreAlike r r' Eq ((source x n).loadKey (.text r) .engine c password)
      ((source x n).loadKey (.text r') .engine c password) := by
  cases x with
  | files => exact inStep_throw_bind _ _ _
  | token e =>
    change AreAlike r r' Eq (loadFromToken n (.text r) .engine c password)
      (loadFromToken n (.text r') .engine c password)
    unfold loadFromToken
    refine InStep.seq (inStep_lift_self _ _) fun key => ?_
    change AreAlike r r' Eq (lift _ (attributes r) >>= _) (lift _ (attributes r') >>= _)
    refine InStep.seq (inStep_lift ?_) fun attributes => inStep_pure rfl
    rcases attributes_samePath h with ⟨found, here, here'⟩ | ⟨here, here'⟩
    · rw [here, here']
      exact .ok rfl
    · rw [here, here']
      exact .error (.inr ⟨rfl, rfl⟩)

/-- Requests for an identity that differ in the reference to a token key only. -/
structure IdentityRequest.SameButKey (r r' : String) (a b : IdentityRequest) : Prop where
  key : a.key = .text r
  format : a.format = .engine
  notGiven : ∀ s, a.origin ≠ .given s
  same : b = { a with key := .text r' }

namespace Identity

variable {a b : IdentityRequest}

/-- Requests that are the same but for the key are given the same provider. -/
theorem areAlike_provider (h : a.SameButKey r r' b) :
    AreAlike r r' Provider.AreOne (provider a) (provider b) := by
  obtain rfl := h.same
  refine ⟨fun w w' same => ?_⟩
  subst same
  change Agree _ _ (provider a w).1 (provider a w).1 ∧ _
  rcases ran : provider a w with ⟨o, w'⟩
  rcases provider_cases h.notGiven ran with ⟨f, rfl, -⟩ | ⟨x, rfl, -⟩
  · exact ⟨.error (.inl rfl), congrArg Prod.snd ran.symm⟩
  · exact ⟨.ok ⟨rfl, x, _, rfl⟩, congrArg Prod.snd ran.symm⟩

/-- The identities differ in what their keys were asked for by. -/
theorem areAlike_load (path : SamePath r r') (h : a.SameButKey r r' b) (x : Provider) (n : Nat) :
    AreAlike r r' (fun i i' => i' = { i with source := i'.source }) (load (x.source n) a)
      (load (x.source n) b) := by
  obtain rfl := h.same
  unfold load
  rw [h.key, h.format]
  refine InStep.seq (areAlike_self _) fun certificateText => inStep_get_bind fun w w' same => ?_
  subst same
  refine InStep.seq (areAlike_self _) fun certificate => ?_
  refine InStep.seq (Provider.areAlike_loadKey path x n certificate _) fun key => ?_
  refine InStep.seq (areAlike_self _) fun summary => InStep.seq (areAlike_self _) fun _ => ?_
  exact inStep_pure rfl

/-- A block goes alike with the keys that both references stand for, if it does not look at what the key was
asked for by. -/
theorem areAlike_use {α : Type} {block : Identity → Run α} (path : SamePath r r')
    (h : a.SameButKey r r' b) (blind : ∀ i source, block { i with source } = block i) :
    AreAlike r r' Eq (use a block) (use b block) := by
  refine (areAlike_provider h).bind fun s s' same => ?_
  obtain ⟨rfl, x, n, rfl⟩ := same
  refine KeySource.inStep_session (areAlike_self _) ?_ (areAlike_self _)
  refine (areAlike_load path h x n).bind fun i i' same => ?_
  rw [same, blind i i'.source]
  exact areAlike_self _

end Identity

/-! ## A run -/

namespace Configuration

variable {c : Configuration} {w : World}

/-- Validation does not tell one key that is set from another. -/
theorem validate_setKey (isSet : (Value.text r).isSet = true) (isSet' : (Value.text r').isSet = true) :
    (c.set .key (.text r')).validate = (c.set .key (.text r)).validate := by
  have key {r : String} (isSet : (Value.text r).isSet = true) (p : ConfigurationProblem) :
      (c.set .key (.text r)).require .key p = .ok () := if_pos isSet
  unfold validate
  rw [key isSet, key isSet']
  rfl

/-- A reference that begins with the scheme is not empty. -/
theorem isSet_of_isUri (h : r.startsWith scheme = true) : (Value.text r).isSet = true := by
  obtain ⟨rest, written⟩ := String.startsWith_string_iff.1 h
  have filled : r ≠ "" := by
    rintro rfl
    cases written
  simpa [Value.isSet] using filled

/-- The requests for the two references differ in the key alone. -/
theorem identityRequest_setKey (format : c.keyFormat = .ok .engine) :
    Agree (Requoted r r') (IdentityRequest.SameButKey r r') (c.set .key (.text r)).identityRequest
      (c.set .key (.text r')).identityRequest := by
  have named (r : String) : (c.set .key (.text r)).identityRequest =
      (c.origin.mapError .defect).map
        fun origin => ⟨.text r, .engine, c.get .certificate, origin, none⟩ := by
    unfold identityRequest
    change (c.keyFormat >>= fun format => c.origin.mapError .defect >>= _) = _
    rw [format]
    rcases c.origin with d | origin <;> rfl
  rw [named, named]
  rcases here : c.origin with d | origin
  · exact .error (.inl rfl)
  · refine .ok ⟨rfl, rfl, fun s given => ?_, rfl⟩
    obtain ⟨name, -, same⟩ := Outcome.map_eq_ok.1 here
    rw [← same] at given
    cases name <;> cases given

/-- Signing with either of two references with the same path goes the same way. -/
theorem areAlike_sign (path : SamePath r r') (format : c.keyFormat = .ok .engine) :
    AreAlike r r' Eq (c.set .key (.text r)).sign (c.set .key (.text r')).sign := by
  have checked := validate_setKey (c := c) (isSet_of_isUri path.isUri) (isSet_of_isUri path.isUri')
  refine inStep_sign checked rfl rfl (fun e => areAlike_self _) (areAlike_self _)
    (identityRequest_setKey format) fun a b image algorithm same => ?_
  exact Identity.areAlike_use path same fun _ _ => rfl

/-- A wrong format is not reported as a reference that names no key. -/
theorem keyFormat_ne_unnamed : c.keyFormat ≠ .error (unnamed r) := by
  unfold keyFormat requireWritable KeyFormat.ofValue KeyFormat.ofName unnamed
  intro failed
  rcases Outcome.bind_eq_error.1 failed with failed | ⟨_, -, failed⟩
  · split at failed <;> cases failed
  · split at failed <;> cases failed

/-- A missing engine is not reported as a reference that names no key. -/
theorem checkEngine_ne_unnamed : c.checkEngine ≠ .error (unnamed r) := by
  intro failed
  unfold checkEngine at failed
  split at failed
  · rcases Outcome.bind_eq_error.1 failed with failed | ⟨name, -, failed⟩
    · obtain ⟨d, -, other⟩ := Outcome.mapError_eq_error.1 failed
      cases other
    · rcases name with _ | name
      · cases failed
      · dsimp only at failed
        split at failed <;> cases failed
  · cases failed

/-- An unknown digest is not reported as a reference that names no key. -/
theorem digestAlgorithm_ne_unnamed : c.digestAlgorithm ≠ .error (unnamed r) := by
  intro failed
  unfold digestAlgorithm requireWritable at failed
  rcases Outcome.bind_eq_error.1 failed with failed | ⟨_, -, failed⟩
  · split at failed <;> cases failed
  · dsimp only at failed
    split at failed <;> cases failed

/-- The check of the settings does not read the reference. -/
theorem validate_ne_unnamed : c.validate ≠ .error (unnamed r) := by
  intro failed
  rcases validate_eq_error failed with ⟨s, p, missing, failed⟩ | failed | failed | failed | failed
  · unfold require unnamed at failed
    split at failed
    · cases failed
    · obtain rfl : p = .unnamedKey r := by simpa using failed
      simp at missing
  · exact keyFormat_ne_unnamed failed
  · cases failed
  · exact checkEngine_ne_unnamed failed
  · exact digestAlgorithm_ne_unnamed failed

/-- A run that ends with a reference that names no key ends with its own. -/
theorem attributes_of_sign {s t : String}
    (ended : EndsWith (c.set .key (.text s)).sign w (unnamed t)) :
    attributes s = .error (.unnamedKey t) := by
  rcases sign_endsWith.1 ended with refused | ⟨-, -, passed⟩
  · exact (validate_ne_unnamed refused).elim
  · cases passed with
    | unnamedKey _ _ _ _ _ _ _ keyText unnamed =>
      rw [get_set_self] at keyText
      obtain rfl := Value.text.inj keyText
      exact unnamed

/-- **What the query of a reference can do.** Two runs in the same surroundings whose references to a token
key differ in their query only leave the same surroundings: they tell the same, ask the tool the same and
write the same. They end alike unless the reference names no key and this is what the run ends with; then
each quotes its own reference, with the same code and the same details. -/
theorem sign_query (path : SamePath r r') (format : c.keyFormat = .ok .engine) (w : World) :
    let first := (c.set .key (.text r)).sign w
    let second := (c.set .key (.text r')).sign w
    second.2 = first.2 ∧
    (second.1 = first.1 ∨ (attributes r = .error (.unnamedKey r) ∧ first.1 = .error (unnamed r) ∧
      second.1 = .error (unnamed r'))) ∧
    (second.1 = first.1 ↔ r' = r ∨ first.1 ≠ .error (unnamed r)) ∧
    (∀ f, first.1 = .error (.failure f) →
      ∃ f', second.1 = .error (.failure f') ∧ f'.code = f.code ∧ f'.details = f.details) := by
  intro first second
  obtain ⟨ended, left⟩ := (areAlike_sign path format).step w w rfl
  have own {s t : String} (failed : ((c.set .key (.text s)).sign w).1 = .error (unnamed t)) :
      attributes s = .error (.unnamedKey t) := attributes_of_sign ⟨_, Prod.ext failed rfl⟩
  have ending : second.1 = first.1 ∨ (attributes r = .error (.unnamedKey r) ∧
      first.1 = .error (unnamed r) ∧ second.1 = .error (unnamed r')) :=
    (eq_or_unnamed_of_agree ended).imp_right fun quoted => ⟨own quoted.1, quoted⟩
  refine ⟨left.symm, ending, ⟨fun same => ?_, fun h => ?_⟩, fun f failed => ?_⟩
  · -- an outcome that quotes the one reference is none of the other, unless they are the same
    refine or_iff_not_imp_right.2 fun quoted => ?_
    have quoted' := own (same.trans (not_not.1 quoted))
    rcases attributes_samePath path with ⟨found, -, read⟩ | ⟨-, refused⟩
    · rw [read] at quoted'
      cases quoted'
    · rw [refused] at quoted'
      exact ConfigurationProblem.unnamedKey.inj (Except.error.inj quoted')
  · rcases ending with same | ⟨-, failed, failed'⟩
    · exact same
    · rcases h with rfl | other
      · rfl
      · exact (other failed).elim
  · rcases ending with same | ⟨-, failed', failed''⟩
    · exact ⟨f, same.trans failed, rfl, rfl⟩
    · obtain rfl : f = _ := Fault.failure.inj (Except.error.inj (failed.symm.trans failed'))
      exact ⟨_, failed'', rfl, rfl⟩

/-- Whether a run ends with a reference that names no key. -/
def endsUnnamed (c : Configuration) (w : World) (reference : String) : Bool :=
  match (c.sign w).1 with
  | .error f => f = unnamed reference
  | .ok _ => false

/-- What the check for a run that ends unnamed has found is how the run ends. -/
theorem eq_of_endsUnnamed (h : endsUnnamed c w r = true) : (c.sign w).1 = .error (unnamed r) := by
  unfold endsUnnamed at h
  split at h
  · rename_i f failed
    rw [failed, of_decide_eq_true h]
  · cases h

/-- Two secrets in the query of a reference that names no key: each is quoted. -/
theorem sign_query_unnamedKeyRun :
    let r := "pkcs11:token=x?pin-value=1234"
    let r' := "pkcs11:token=x?pin-value=5678"
    let first := (unnamedKeyRun.set .key (.text r)).sign tooledSurroundings
    let second := (unnamedKeyRun.set .key (.text r')).sign tooledSurroundings
    SamePath r r' ∧ second.2 = first.2 ∧ first.1 = .error (unnamed r) ∧
      second.1 = .error (unnamed r') := by
  intro r r' first second
  have path : SamePath r r' := ⟨by decide +kernel, by decide +kernel, by decide +kernel⟩
  have format : unnamedKeyRun.keyFormat = .ok .engine := by decide +kernel
  have quoted : first.1 = .error (unnamed r) := eq_of_endsUnnamed (by decide +kernel)
  obtain ⟨left, ending, alike, -⟩ := sign_query path format tooledSurroundings
  refine ⟨path, left, quoted, ?_⟩
  rcases ending with same | ⟨-, -, quoted'⟩
  · rcases alike.1 same with other | other
    · exact absurd other (by decide)
    · exact (other quoted).elim
  · exact quoted'

end Configuration

end ImageSigning
