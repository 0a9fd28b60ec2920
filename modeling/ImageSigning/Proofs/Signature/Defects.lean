import ImageSigning.Proofs.Identity
import ImageSigning.Proofs.Signature.Made

/-!
# Signatures that cannot be made

What a key refuses to do is reported as a rejection, and a token key that is in reach is asked for what it
can do, so signing itself ends with a failure or a signature. A signature that was signed still has to be
written down. That ends with a defect where the signer's issuer has an unreadable name, or where there is
more of the signature than a length can announce; adding the certificates of a bundle, also where the
bundle ends with one.

* **`SigningKey.sign_defectsIn`** — the defects of a key in reach are those that are reported.
* **`Signature.IsAccepted`** — a signature over a digest, before it is written down.
* **`Signature.build_defectsIn`**, **`Signature.augment_defectsIn`** — when it cannot be.
-/

namespace ImageSigning

open Run

/-! ## What a key answers -/

section
variable {n : Nat} {w : World}

/-- A defect that a key can end with, and that building a signature reports as a rejection. -/
def IsRejection (d : Defect) : Prop := d = .keyRefused ∨ d = .nullCharacter

/-- A key that is named gives the tool its arguments. -/
theorem Engine.exists_arguments {e : Engine} {m : Mechanism} {attributes : KeyReference.Attributes}
    (named : KeyReference.IsNamed attributes) : ∃ l, e.arguments? m attributes = some l := by
  obtain ⟨key, found⟩ : ∃ l, keyArguments? attributes = some l := by
    unfold keyArguments?
    rcases identifier : attributes.lookup KeyReference.idName with _ | id
    · rcases labelled : attributes.lookup KeyReference.labelName with _ | label
      · rcases named with named | named
        · rw [identifier] at named
          cases named
        · rw [labelled] at named
          cases named
      · exact ⟨_, rfl⟩
    · exact ⟨_, rfl⟩
  unfold arguments?
  rw [found]
  exact ⟨_, rfl⟩

/-- Signing on a token with such a key ends with a defect only as a rejection. -/
theorem Engine.sign_defectsIn {e : Engine} {m : Mechanism} {attributes : KeyReference.Attributes}
    {message : Bytes} (named : KeyReference.IsNamed attributes) :
    DefectsIn IsRejection (e.sign n (some attributes) m message) w := by
  obtain ⟨arguments, found⟩ := exists_arguments (e := e) (m := m) named
  have runs {tool : String} {request : ToolRequest} {w : World} :
      DefectsIn IsRejection (runTool tool request) w := by
    unfold runTool
    refine defectsIn_get.bind fun v w₁ _ => ?_
    split
    · exact defectsIn_pure _
    · intro d w' ran
      cases ran
  unfold sign
  split
  · exact defectsIn_fail _
  · refine (defectsIn_modify _).bind fun _ w₁ _ => ?_
    dsimp only
    rw [found]
    refine DefectsIn.ite (fun _ => ?_) fun _ => ?_
    · refine (defectsIn_defect (.inr rfl)).bind fun _ w₂ went => ?_
      exact (not_defect_eq_ok went).elim
    · refine runs.bind fun outcome w₂ _ => ?_
      split
      · exact defectsIn_fail _
      · refine (defectsIn_modify _).bind fun _ w₃ _ => DefectsIn.failUnless fun _ => ?_
        split
        · exact defectsIn_pure _
        · exact defectsIn_fail _

/-- A key that can be asked signs, refuses, is not asked because of an argument, or fails. -/
theorem SigningKey.sign_defectsIn {key : SigningKey} {f : HashFunction} {message : Bytes}
    (ready : key.IsReady w) : DefectsIn IsRejection (key.sign f message) w := by
  cases key with
  | inMemory key =>
    unfold sign
    refine DefectsIn.failUnless fun _ => ?_
    dsimp only
    split
    · exact defectsIn_pure _
    · exact defectsIn_defect (.inl rfl)
  | onToken n attributes algorithm =>
    obtain ⟨opened, -, named⟩ := ready
    unfold sign
    refine defectsIn_get.bind fun v w₁ got => ?_
    obtain ⟨rfl, rfl⟩ := get_eq_ok.1 got
    refine DefectsIn.failUnless fun _ => ?_
    split
    · exact defectsIn_fail _
    · unfold Provider.sign
      refine defectsIn_get.bind fun v w₁ got => ?_
      obtain ⟨rfl, rfl⟩ := get_eq_ok.1 got
      obtain ⟨p, here, session⟩ := Option.map_eq_some_iff.1 opened
      cases p with
      | files => cases session
      | token e =>
        rw [here]
        exact Engine.sign_defectsIn named

end

/-! ## Writing a signature down -/

namespace Signature

open Der

/-- A signature over a digest that the key of a certificate accepts, before it is written down. -/
structure IsAccepted (c : Certificate) (d : Digest) (s : Signature) : Prop where
  digest : s.digest = d
  signer : s.signer = c
  content : s.content = bind d
  attributes : s.attributes = attributesFor d.algorithm (bind d)
  contentType : s.contentType = indirectDataOid
  algorithm : algorithmFor c d.algorithm = .ok s.algorithm
  accepted : isBy c d.algorithm (signedForm s.attributes) s.value = true

/-- Other certificates beside the signer's do not matter. -/
theorem IsAccepted.withOthers {c : Certificate} {d : Digest} {s : Signature} (h : s.IsAccepted c d)
    (others : List Certificate) : ({ s with others } : Signature).IsAccepted c d :=
  ⟨h.digest, h.signer, h.content, h.attributes, h.contentType, h.algorithm, h.accepted⟩

/-- Why a signature cannot be written down. -/
inductive Oversized (s : Signature) : Defect → Prop
  /-- The signer's issuer has an unreadable name. -/
  | issuer {q : NameProblem} (unreadable : s.signer.issuer.read = .error q) : Oversized s (.name q)
  /-- There is more of the signature than a length can announce. -/
  | length (long : elementLimit ≤ s.encode.length) : Oversized s .elementTooLong

variable {i : Identity} {d : Digest} {w w' : World}

/-- Writing a signature's octets ends with a defect only where they are too many. -/
theorem written_defectsIn {s : Signature} : DefectsIn (Oversized s) s.written w := by
  unfold written encoded
  refine DefectsIn.bind ?_ fun t w₁ lifted => ?_
  · refine defectsIn_lift fun q d failed shown => ?_
    obtain rfl := Fault.defect.inj shown
    rcases Outcome.bind_eq_error.1 failed with unreadable | ⟨_, -, failed⟩
    · exact .issuer unreadable
    · exact (Outcome.pure_ne_error failed).elim
  · obtain ⟨shape, rfl⟩ := lift_eq_ok.1 lifted
    obtain ⟨_, -, shape⟩ := Outcome.bind_eq_ok.1 shape
    obtain rfl := Outcome.pure_eq_ok.1 shape
    refine DefectsIn.ite (fun long => ?_) fun _ => defectsIn_pure _
    refine (defectsIn_defect (.length long)).bind fun _ w₂ went => ?_
    exact (not_defect_eq_ok went).elim

/-- What a key answers is reported when a signature is built. -/
theorem value_defectsIn {P : Defect → Prop} {f : HashFunction} {message : Bytes}
    (ready : i.key.IsReady w) :
    DefectsIn P (tryCatch (i.key.sign f message) fun e => throw (rejected e)) w := by
  intro x w' ran
  rw [tryCatch_throw] at ran
  rcases signed : i.key.sign f message w with ⟨(e | y) | value, w₁⟩
  · rw [signed] at ran
    cases ran
  · rw [signed] at ran
    rcases SigningKey.sign_defectsIn ready y w₁ signed with rfl | rfl
    · cases ran
    · cases ran
  · rw [signed] at ran
    cases ran

/-- Building ends with a defect only where an accepted signature cannot be written down. -/
theorem build_defectsIn (ready : i.key.IsReady w) (shown : ∃ t, i.certificate.subject.show = .ok t) :
    DefectsIn (fun x => ∃ s : Signature, s.IsAccepted i.certificate d ∧ s.others = [] ∧ s.Oversized x)
      (build i d) w := by
  have subject {P : Defect → Prop} {w : World} : DefectsIn P (Run.subject i.certificate) w := by
    obtain ⟨t, shown⟩ := shown
    unfold Run.subject
    rw [shown]
    exact defectsIn_pure t
  rw [build_eq]
  refine (defectsIn_lift_failure _ _).bind fun algorithm w₁ lifted => ?_
  obtain ⟨chosen, rfl⟩ := lift_eq_ok.1 lifted
  unfold signContent
  refine (value_defectsIn ready).bind fun value w₂ _ => ?_
  refine DefectsIn.ite (fun _ => ?_) fun verified => ?_
  · refine subject.bind fun t w₃ _ => (defectsIn_fail _).bind fun _ w₄ went => ?_
    exact (not_fail_eq_ok went).elim
  refine DefectsIn.bind ?_ fun s w₃ _ => subject.bind fun t w₄ _ =>
    (defectsIn_tell _).bind fun _ w₅ _ => defectsIn_pure _
  have accepted : isBy i.certificate d.algorithm
      (signedForm (attributesFor d.algorithm (bind d))) value = true := by
    simpa using verified
  -- the parts get a name, so that no step unfolds what they are made of
  generalize shape : (⟨d, i.certificate, value, algorithm, bind d, attributesFor d.algorithm (bind d),
    [], indirectDataOid, []⟩ : Signature) = parts
  refine written_defectsIn.mono fun x odd => ⟨parts, ?_, by rw [← shape], odd⟩
  exact {
    digest := by rw [← shape]
    signer := by rw [← shape]
    content := by rw [← shape]
    attributes := by rw [← shape]
    contentType := by rw [← shape]
    algorithm := by
      rw [← shape]
      exact chosen
    accepted := by simpa only [← shape] using accepted }

/-- Adding a bundle ends with a defect where reading it does, or where the signature with its certificates
cannot be written down. -/
theorem augment_defectsIn {s : Signature} {path : String} : DefectsIn (fun x =>
    InputFile.bundle w.files path = .error (.defect x) ∨
      ∃ chain, InputFile.bundle w.files path = .ok chain ∧
        ({ s with others := s.others ++ chain } : Signature).Oversized x) (s.augment path) w := by
  unfold augment
  refine defectsIn_get.bind fun v w₁ got => ?_
  obtain ⟨rfl, rfl⟩ := get_eq_ok.1 got
  refine DefectsIn.bind ?_ fun chain w₁ lifted => ?_
  · refine defectsIn_lift fun f x failed shown => .inl ?_
    rw [failed, ← (id shown : f = .defect x)]
  · obtain ⟨found, rfl⟩ := lift_eq_ok.1 lifted
    refine DefectsIn.tellIf fun w₁ _ => DefectsIn.bind ?_ fun t w₂ _ => ?_
    · exact written_defectsIn.mono fun x odd => .inr ⟨chain, found, odd⟩
    · exact (defectsIn_tell _).bind fun _ w₃ _ => defectsIn_pure _

/-- A signature that was built is accepted and holds its own octets. -/
theorem isAccepted_of_build {s : Signature} (h : build i d w = (.ok s, w')) :
    s.IsAccepted i.certificate d ∧ s.others = [] ∧ s.der = s.encode := by
  obtain ⟨algorithm, value, w₁, -, -, verified, -, parts, shape, -, -, rfl⟩ := build_eq_ok h
  obtain ⟨complete, others⟩ := isComplete_of_build h
  refine ⟨?_, others, complete.der⟩
  exact {
    digest := complete.digest
    signer := complete.signer
    content := complete.content
    attributes := complete.attributes
    contentType := complete.contentType
    algorithm := complete.algorithm
    accepted := by simpa only [shape] using verified }

/-- A signature stays accepted when certificates are added. -/
theorem IsAccepted.augment {c : Certificate} {s t : Signature} {path : String}
    (before : s.IsAccepted c d) (h : s.augment path w = (.ok t, w')) : t.IsAccepted c d ∧
      t.der = t.encode ∧ ∃ chain, InputFile.bundle w.files path = .ok chain ∧
        t.others = s.others ++ chain := by
  obtain ⟨chain, found, parts, shape, -, -, rfl⟩ := augment_eq_ok h
  refine ⟨?_, (encode_withDer parts _).symm, chain, found, by rw [shape]⟩
  exact {
    digest := by rw [shape, ← before.digest]
    signer := by rw [shape, ← before.signer]
    content := by rw [shape, ← before.content]
    attributes := by rw [shape, ← before.attributes]
    contentType := by rw [shape, ← before.contentType]
    algorithm := by simpa only [shape] using before.algorithm
    accepted := by simpa only [shape] using before.accepted }

end Signature

end ImageSigning
