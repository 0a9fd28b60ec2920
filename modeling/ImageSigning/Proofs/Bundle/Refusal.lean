import ImageSigning.Proofs.Bundle.Composition
import ImageSigning.Proofs.Defects
import ImageSigning.Proofs.FileSystem
import ImageSigning.Proofs.Image.Acceptance

/-!
# Bundles that are refused

An opening line that is counted has to be followed by a closing line before the next one that is counted,
or the end. If it is not, more opening lines stand one behind the other than there are blocks: those that
were counted up to the next one, which then ends before the block does, and those of the blocks that
follow. So the bundle is refused, wherever the line stands and whatever lines share their hyphens.

* **`Holds.opens_of_staysOpen`** — the counting.
* **`read_of_hasUnclosed`** — a bundle with a block that is not closed is refused.
* **`InputFile.bundle_outcome`** — what every file gives: its certificates, or which report.
-/

namespace ImageSigning

open ImageSigning.Bundle

namespace Bundle

/-! ## Blocks that are not closed -/

/-- Behind so many opening lines, as they are counted, stand these octets. -/
inductive Behind : Nat → Bytes → Bytes → Prop
  | zero (b : Bytes) : Behind 0 b b
  | succ {n : Nat} {before opening after rest : Bytes} (first : IsFirst openings before opening)
      (others : Behind n after rest) : Behind (n + 1) (before ++ opening ++ after) rest

/-- There is no closing line before the next opening line ends, or before the octets end if there is
none. -/
inductive StaysOpen : Bytes → Prop
  | toEnd {rest : Bytes} (last : Lacks openings rest) (unclosed : Lacks closings rest) : StaysOpen rest
  | toNext {before opening after : Bytes} (next : IsFirst openings before opening)
      (unclosed : Lacks closings (before ++ opening)) : StaysOpen (before ++ opening ++ after)

/-- A bundle in which an opening line is not followed by a closing line of its own. -/
def HasUnclosed (b : Bytes) : Prop := ∃ n rest, Behind (n + 1) b rest ∧ StaysOpen rest

section
variable {a b front tail rest body closing : Bytes} {cs : List Certificate} {n : Nat}

/-- What stays open up to an opening line, though a block ends in it, has the opening line in the block. So
with the lines behind the block there is one line more. -/
theorem opens_of_staysOpen (staysOpen : StaysOpen b) (ends : body ++ closing ++ rest <:+ b)
    (m : closing ∈ closings) (behind : Opens n rest) : Opens (n + 1) b := by
  cases staysOpen with
  | toEnd last unclosed =>
    have here : closing <:+: body ++ closing ++ rest := List.infix_append body closing rest
    exact (unclosed closing m (here.trans ends.isInfix)).elim
  | @toNext before opening after next unclosed =>
    have behind' : rest <:+ before ++ opening ++ after :=
      (List.suffix_append (body ++ closing) rest).trans ends
    refine .succ next.1 (behind.of_suffix ?_)
    refine List.suffix_of_suffix_length_le behind' (List.suffix_append (before ++ opening) after) ?_
    by_contra shorter
    -- otherwise the closing line would stand before the opening line ends
    obtain ⟨p, same⟩ := ends
    have sizes := congrArg List.length same
    simp only [List.length_append] at sizes
    have whole : p ++ body ++ closing <+: before ++ opening ++ after := by
      rw [← same]
      simp only [← List.append_assoc]
      exact List.prefix_append _ rest
    have start : p ++ body ++ closing <+: before ++ opening := by
      refine List.prefix_of_prefix_length_le whole (List.prefix_append _ after) ?_
      simp only [List.length_append]
      omega
    have here : closing <:+: p ++ body ++ closing := (List.suffix_append _ closing).isInfix
    exact unclosed closing m (here.trans start.isInfix)

/-- If an opening line that is counted stays open, more opening lines stand one behind the other than there
are certificates. -/
theorem Holds.opens_of_staysOpen (h : Holds front cs) (part : front ++ tail <:+ b)
    (counted : Behind (n + 1) b rest) (staysOpen : StaysOpen rest) : Opens (cs.length + 1) b := by
  induction h generalizing b n with
  | nil =>
    cases counted with
    | succ first others => exact .succ first.1 (.zero _)
  | @cons gap opening body closing front c cs begins ends single read others ih =>
    cases counted with
    | @succ _ before opening' after _ first further =>
      -- the line that is counted first ends no later than the block begins
      have inside : body ++ closing ++ (front ++ tail) <:+ after := by
        obtain ⟨p, same⟩ := part
        refine first.suffix (y := p ++ gap) begins.1 ?_
        rw [← same]
        simp only [List.append_assoc]
      rw [List.length_cons]
      refine .succ first.1 ?_
      cases further with
      | zero => exact Bundle.opens_of_staysOpen staysOpen inside ends.1 (others.opens (.zero tail))
      | succ first' others' =>
        have later : front ++ tail <:+ _ := (List.suffix_append (body ++ closing) _).trans inside
        exact ih later (.succ first' others')

/-- A bundle with a block that is not closed is refused. -/
theorem read_of_hasUnclosed (h : HasUnclosed b) : ∃ r, read b = .error r := by
  obtain ⟨n, rest, counted, staysOpen⟩ := h
  rcases accepted : read b with r | cs
  · exact ⟨r, rfl⟩
  · obtain ⟨front, tail, rfl, holds, -, few⟩ := read_eq_ok_iff.1 accepted
    exact (few (holds.opens_of_staysOpen (List.suffix_refl _) counted staysOpen)).elim

/-- What a bundle is refused for is reported with the number of the blocks before it. -/
theorem Offends.block?_eq {p : ChainProblem} (h : Offends n rest (.problem p)) :
    p.block? = some n := by
  cases h with
  | truncated => rfl
  | unterminated => rfl
  | undecodable => rfl

end

end Bundle

/-- A bundle that is refused leaves the signature without an heir, and all else as it was. -/
theorem Signature.augment_of_error {s : Signature} {path : String} {w : World} {f : Fault}
    (refused : InputFile.bundle w.files path = .error f) : s.augment path w = (.error f, w) := by
  unfold augment
  rw [Run.bind_of_ok (Run.get_eq_ok.2 ⟨rfl, rfl⟩), refused]
  rfl

namespace InputFile

/-- **What a chain file gives.** A file that cannot be read is reported; only a path that is too long to be
looked for is not. What is read is the certificates in all blocks, and then there are no other opening
lines; or the first block at fault is reported with the number of those before it; or all blocks were read,
but one more opening line stands outside of them, and the number is that of all blocks. The one other
outcome is that of a certificate of a version that does not exist, which is not reported. A bundle with a
block that is not closed is never accepted. Whenever the bundle is not accepted, a signature that it was to
be added to is what it was, and nothing is given or told. -/
theorem bundle_outcome (fs : FileSystem) (path : String) :
    (∀ cause, octets fs .chain path = .error (.problem cause) →
      bundle fs path = .error (.failure (.chain path (.unreadable cause)))) ∧
    (∀ d, octets fs .chain path = .error (.defect d) →
      fs.leadsSomewhere path = .error .nameTooLong ∧
      bundle fs path = .error (.defect (.unreachable .nameTooLong))) ∧
    (∀ b, octets fs .chain path = .ok b →
      (∀ cs, bundle fs path = .ok cs ↔ ∃ front tail, b = front ++ tail ∧ Holds front cs ∧
        Lacks openings tail ∧ ¬ Opens (cs.length + 1) b) ∧
      (∀ p, bundle fs path = .error (.failure (.chain path p)) ↔ ∃ front cs rest,
        b = front ++ rest ∧ Holds front cs ∧ p.block? = some cs.length ∧
        (Offends cs.length rest (.problem p) ∨
          Lacks openings rest ∧ Opens (cs.length + 1) b ∧ p = .truncated cs.length)) ∧
      (∀ f, bundle fs path = .error f → (∃ p, f = .failure (.chain path p)) ∨
        f = .defect (.certificate .unknownVersion) ∧
          ∃ front cs rest, b = front ++ rest ∧ Holds front cs ∧
            Offends cs.length rest .unknownVersion) ∧
      (HasUnclosed b → ∃ f, bundle fs path = .error f)) ∧
    ∀ f, bundle fs path = .error f →
      ∀ s w, w.files = fs → Signature.augment s path w = (.error f, w) := by
  refine ⟨?_, ?_, ?_, ?_⟩
  · intro cause there
    rw [bundle, there]
    rfl
  · intro d there
    have unreachable := octets_eq_defect.1 there
    exact ⟨unreachable.1, bundle_eq_defect.2 (.inl ⟨unreachable.1, rfl⟩)⟩
  · intro b held
    refine ⟨?_, ?_, ?_, ?_⟩
    · intro cs
      rw [bundle_eq_ok_iff held, read_eq_ok_iff]
    · intro p
      rw [bundle_eq_failure_iff held, read_eq_error_iff]
      constructor
      · rintro ⟨front, cs, rest, whole, holds, offends | ⟨lacks, more, same⟩⟩
        · exact ⟨front, cs, rest, whole, holds, offends.block?_eq, .inl offends⟩
        · obtain rfl := Refusal.problem.inj same
          exact ⟨front, cs, rest, whole, holds, rfl, .inr ⟨lacks, more, rfl⟩⟩
      · rintro ⟨front, cs, rest, whole, holds, -, offends | ⟨lacks, more, rfl⟩⟩
        · exact ⟨front, cs, rest, whole, holds, .inl offends⟩
        · exact ⟨front, cs, rest, whole, holds, .inr ⟨lacks, more, rfl⟩⟩
    · intro f refused
      rw [bundle_eq held, Outcome.mapError_eq_error] at refused
      obtain ⟨r, refused, rfl⟩ := refused
      cases r with
      | problem p => exact .inl ⟨p, rfl⟩
      | unknownVersion =>
        right
        obtain ⟨front, cs, rest, whole, holds, offends | ⟨-, -, same⟩⟩ := read_eq_error_iff.1 refused
        · exact ⟨rfl, front, cs, rest, whole, holds, offends⟩
        · cases same
    · intro unclosed
      obtain ⟨r, refused⟩ := read_of_hasUnclosed unclosed
      rw [bundle_eq held, refused]
      exact ⟨_, rfl⟩
  · intro f refused s w here
    exact Signature.augment_of_error (here ▸ refused)

/-- A written block of octets that are no certificate is refused for the same reason as they are. -/
theorem ofPem_block_of_error {b : Bytes} {p : CertificateProblem} (filled : b ≠ [])
    (h : Certificate.ofDer b = .error p) :
    Certificate.ofPem (Pem.openingLine ++ ([10] ++ Pem.body b) ++ Pem.closingLine)
      = .error (.certificate p) := by
  have labelled : Certificate.labels.contains "CERTIFICATE" = true := by decide
  rw [Certificate.ofPem, Pem.readAll_block filled]
  simp only [Except.mapError, Outcome.ok_bind, List.find?_cons, labelled]
  rw [h]

/-- A file with a certificate of a version that does not exist. -/
def newerBundle : FileSystem :=
  ⟨[(["a"], .file ⟨Pem.write "CERTIFICATE" Image.newerCertificate, 0o644, none⟩)], []⟩

/-- The certificate in it is neither given nor reported. -/
theorem bundle_outcome_newerBundle : ∃ b, octets newerBundle .chain "a" = .ok b ∧
    bundle newerBundle "a" = .error (.defect (.certificate .unknownVersion)) ∧
    (∃ front cs rest, b = front ++ rest ∧ Holds front cs ∧ Offends cs.length rest .unknownVersion) ∧
    ∀ s w, w.files = newerBundle →
      Signature.augment s "a" w = (.error (.defect (.certificate .unknownVersion)), w) := by
  have plain : FileSystem.IsPlain "a" := by
    decide +kernel
  have held : octets newerBundle .chain "a" = .ok (Pem.write "CERTIFICATE" Image.newerCertificate) :=
    FileSystem.octets_of_isPlain (f := ⟨_, 0o644, none⟩) plain rfl rfl
  have newer : Certificate.ofDer Image.newerCertificate = .error .unknownVersion := by
    decide +kernel
  have one : blocks (Pem.write "CERTIFICATE" Image.newerCertificate)
      = [Pem.openingLine ++ ([10] ++ Pem.body Image.newerCertificate) ++ Pem.closingLine] := by
    have cut := blocks_write_append Image.newerCertificate []
    rw [List.append_nil] at cut
    rw [cut, blocks_eq []]
    rfl
  have refused : bundle newerBundle "a" = .error (.defect (.certificate .unknownVersion)) := by
    rw [bundle_eq held, Bundle.read, one, readBlocks, readBlock, if_neg (not_not_intro (markers_block _)),
      ofPem_block_of_error (by decide +kernel) newer]
    rfl
  obtain ⟨-, -, whole, kept⟩ := bundle_outcome newerBundle "a"
  obtain ⟨-, -, ways, -⟩ := whole _ held
  rcases ways _ refused with ⟨p, same⟩ | ⟨-, offends⟩
  · cases same
  · exact ⟨_, held, refused, offends, kept _ refused⟩

end InputFile

end ImageSigning
