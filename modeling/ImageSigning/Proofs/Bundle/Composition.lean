import ImageSigning.InputFile
import ImageSigning.Proofs.Bundle.Layout

/-!
# Bundles one behind the other

When two bundles are put one behind the other, lines are found where they were found before, unless one
more stands across the seam. That cannot be if the first bundle ends with a line end. If the first bundle
is accepted, the scan comes to the seam with nothing opened, so that the second one is read as it is by
itself, with its blocks counted on.

* **`findLine?_append_of_lacks`** — octets without lines are passed over.
* **`markers_append_of_areParted`** — lines are counted in one bundle and then in the other.
* **`read_append`** — the certificates of both, or the second bundle's refusal.
* **`InputFile.bundle_eq_ok_iff`**, **`InputFile.bundle_eq_failure_iff`**,
  **`InputFile.bundle_eq_defect_iff`** — what a file gives, by what is read of its bundle.
-/

namespace ImageSigning

namespace ChainProblem

/-- The problem as it is reported behind so many further blocks. -/
def behind (n : Nat) : ChainProblem → ChainProblem
  | unreadable cause => unreadable cause
  | unterminated block => unterminated (n + block)
  | undecodable block diagnosis => undecodable (n + block) diagnosis
  | truncated block => truncated (n + block)

/-- A problem behind some blocks names a block that many places later. -/
theorem block?_behind (n : Nat) (p : ChainProblem) : (p.behind n).block? = p.block?.map (n + ·) := by
  cases p with
  | unreadable cause => rfl
  | unterminated block => rfl
  | undecodable block diagnosis => rfl
  | truncated block => rfl

end ChainProblem

namespace Bundle

/-- The refusal as it is behind so many further blocks. -/
def Refusal.behind (n : Nat) : Refusal → Refusal
  | problem p => problem (p.behind n)
  | unknownVersion => unknownVersion

/-! ## The seam -/

section
variable {lines : List Bytes} {a b : Bytes}

/-- No line begins in the first octets and ends in the second. -/
def AreParted (lines : List Bytes) (a b : Bytes) : Prop :=
  ∀ s t, s <:+ a → t <+: b → s ≠ [] → t ≠ [] → s ++ t ∉ lines

/-- Texts that no line joins are not joined by one if less of them is there. -/
theorem AreParted.mono {a' b' : Bytes} (h : AreParted lines a b) (suffix : a' <:+ a)
    (start : b' <+: b) : AreParted lines a' b' := by
  intro s t ends begins
  exact h s t (ends.trans suffix) (begins.trans start)

/-- Texts are parted if the first ends with an octet that no line holds. -/
theorem areParted_of_getLast? {y : UInt8} (last : a.getLast? = some y) (other : ∀ l ∈ lines, y ∉ l) :
    AreParted lines a b := by
  intro s t ends begins filled _ m
  refine other _ m (List.mem_append_left t ?_)
  obtain ⟨p, rfl⟩ := ends
  rw [List.getLast?_append_of_ne_nil p filled] at last
  exact List.mem_of_getLast? last

/-- Two texts without any of the lines have none together, unless one stands across the seam. -/
theorem Lacks.append (first : Lacks lines a) (second : Lacks lines b) (seam : AreParted lines a b) :
    Lacks lines (a ++ b) := by
  intro l m here
  rcases List.infix_append_iff_ne_nil.1 here with here | here | ⟨s, t, filled, filled', rfl, ends, begins⟩
  · exact first l m here
  · exact second l m here
  · exact seam s t ends begins filled filled' m

/-- Octets without lines are passed over. -/
theorem findLine?_append_of_lacks (apart : AreApart lines) (lacks : Lacks lines a)
    (seam : AreParted lines a b) : findLine? lines (a ++ b)
      = (findLine? lines b).map fun (before, line, after) => (a ++ before, line, after) := by
  rcases lacks_or_exists_isFirst apart b with lacks' | ⟨x, l, c, rfl, first⟩
  · rw [(findLine?_eq_none_iff apart).2 lacks',
      (findLine?_eq_none_iff apart).2 (lacks.append lacks' seam)]
    rfl
  · rw [(findLine?_eq_some_iff apart).2 ⟨rfl, first⟩]
    have start : x ++ l.dropLast <+: x ++ l ++ c := by
      rw [List.append_assoc]
      exact (List.prefix_append_right_inj x).2
        ((List.dropLast_prefix l).trans (List.prefix_append l c))
    refine (findLine?_eq_some_iff apart).2 ⟨by simp only [List.append_assoc], first.1, ?_⟩
    rw [List.append_assoc]
    exact lacks.append first.2 (seam.mono (List.suffix_refl a) start)

end

section
variable {a b : Bytes}

/-- A text without opening lines adds no block in front of a bundle. -/
theorem blocks_append_of_lacks (lacks : Lacks openings a) (seam : AreParted openings a b) :
    blocks (a ++ b) = blocks b := by
  rw [blocks_eq (a ++ b), findLine?_append_of_lacks areApart_openings lacks seam, blocks_eq b]
  rcases findLine? openings b with _ | ⟨before, line, after⟩
  · rfl
  · rfl

/-- Lines are counted in the first octets and then in the second. -/
theorem markers_append_of_areParted (seam : AreParted openings a b) :
    markers (a ++ b) = markers a + markers b := by
  induction size : a.length using Nat.strong_induction_on generalizing a with
  | _ n ih =>
    rcases lacks_or_exists_isFirst areApart_openings a with lacks | ⟨x, l, c, rfl, first⟩
    · rw [markers_of_lacks lacks, Nat.zero_add, markers_eq (a ++ b),
        findLine?_append_of_lacks areApart_openings lacks seam, markers_eq b]
      rcases findLine? openings b with _ | ⟨before, line, after⟩
      · rfl
      · rfl
    · have long := length_pos_of_mem (.inl first.1)
      simp only [List.length_append] at size
      have rest := ih c.length (by omega)
        (seam.mono (List.suffix_append (x ++ l) c) (List.prefix_refl b)) rfl
      rw [List.append_assoc (x ++ l), markers_of_isFirst first, markers_of_isFirst first, rest]
      omega

/-! ## Reading -/

/-- Blocks that are counted on are read in the same way. -/
theorem readBlocks_behind (n number : Nat) (bs : List Bytes) :
    readBlocks (n + number) bs = (readBlocks number bs).mapError (Refusal.behind n) := by
  have each (number : Nat) (block : Bytes) :
      readBlock (n + number) block = (readBlock number block).mapError (Refusal.behind n) := by
    unfold readBlock
    by_cases several : markers block ≠ 1
    · rw [if_pos several, if_pos several]
      rfl
    · rw [if_neg several, if_neg several]
      split
      · rfl
      · rfl
      · rfl
  induction bs generalizing number with
  | nil => rfl
  | cons block bs ih =>
    rw [readBlocks, readBlocks, each, Nat.add_assoc, ih]
    rcases readBlock number block with r | c
    · rfl
    · rcases readBlocks (number + 1) bs with r | cs
      · rfl
      · rfl

/-- What is read of two bundles, the first of which is accepted. -/
theorem read_append {cs : List Certificate} (accepted : read a = .ok cs)
    (seam : AreParted openings a b) :
    read (a ++ b) = ((read b).map (cs ++ ·)).mapError (Refusal.behind cs.length) := by
  obtain ⟨front, tail, rfl, holds, lacks, few⟩ := read_eq_ok_iff.1 accepted
  have behind : AreParted openings tail b :=
    seam.mono (List.suffix_append front tail) (List.prefix_refl b)
  have counted : markers (front ++ tail ++ b) = cs.length + markers b := by
    rw [markers_append_of_areParted seam, holds.markers_eq_iff.2 few]
  have blocksRead : readBlocks 0 (blocks (front ++ tail ++ b))
      = ((readBlocks 0 (blocks b)).mapError (Refusal.behind cs.length)).map (cs ++ ·) := by
    rw [List.append_assoc, holds.readBlocks, blocks_append_of_lacks lacks behind, Nat.zero_add,
      ← readBlocks_behind cs.length 0, Nat.add_zero]
  unfold read
  rw [blocksRead, counted]
  rcases readBlocks 0 (blocks b) with r | ds
  · rfl
  · change (if cs.length + markers b = (cs ++ ds).length then _ else _) = Except.mapError _
      (Except.map _ (if markers b = ds.length then _ else _))
    rw [List.length_append]
    by_cases same : markers b = ds.length
    · rw [if_pos same, if_pos (by omega)]
      rfl
    · rw [if_neg same, if_neg (by omega)]
      rfl

end

/-- What a refusal of the bundle at a path is reported as. -/
def Refusal.fault (path : String) : Refusal → Fault
  | problem p => .failure (.chain path p)
  | unknownVersion => .defect (.certificate .unknownVersion)

end Bundle

namespace InputFile

open ImageSigning.Bundle

variable {fs : FileSystem} {path : String} {b : Bytes}

/-- The certificates in a file are those of the bundle that it holds. -/
theorem bundle_eq (held : octets fs .chain path = .ok b) :
    bundle fs path = (read b).mapError (Refusal.fault path) := by
  rw [bundle, held, Except.mapError, Outcome.ok_bind]
  rcases read b with r | cs
  · cases r with
    | problem p => rfl
    | unknownVersion => rfl
  · rfl

/-- A file gives the certificates that are read of its bundle. -/
theorem bundle_eq_ok_iff {cs : List Certificate} (held : octets fs .chain path = .ok b) :
    bundle fs path = .ok cs ↔ read b = .ok cs := by
  rw [bundle_eq held, Outcome.mapError_eq_ok]

/-- What is reported of a file is what its bundle is refused for. -/
theorem bundle_eq_failure_iff {p : ChainProblem} (held : octets fs .chain path = .ok b) :
    bundle fs path = .error (.failure (.chain path p)) ↔ read b = .error (.problem p) := by
  rw [bundle_eq held, Outcome.mapError_eq_error]
  constructor
  · rintro ⟨r, refused, same⟩
    cases r with
    | problem q =>
      obtain rfl : q = p := by simpa [Refusal.fault] using same
      exact refused
    | unknownVersion => cases same
  · intro refused
    exact ⟨_, refused, rfl⟩

/-- Of a bundle that is held, nothing else goes unreported. -/
theorem bundle_eq_defect_iff {d : Defect} (held : octets fs .chain path = .ok b) :
    bundle fs path = .error (.defect d)
      ↔ read b = .error .unknownVersion ∧ d = .certificate .unknownVersion := by
  rw [bundle_eq held, Outcome.mapError_eq_error]
  constructor
  · rintro ⟨r, refused, same⟩
    cases r with
    | problem q => cases same
    | unknownVersion =>
      cases same
      exact ⟨refused, rfl⟩
  · rintro ⟨refused, rfl⟩
    exact ⟨_, refused, rfl⟩

end InputFile

end ImageSigning
