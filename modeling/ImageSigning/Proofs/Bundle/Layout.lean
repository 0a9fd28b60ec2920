import ImageSigning.Proofs.Bundle.Scanning
import ImageSigning.Proofs.Outcome

/-!
# What a bundle is read as

A bundle is read block by block from its front, up to the octets that follow the last block or up to the
first block that is at fault. What is read is so determined by the front, its certificates and what stands
behind it.

* **`Holds`** — the front of a bundle, and its certificates.
* **`Offends`** — what stands behind the front, and what it is refused for.
* **`read_eq_ok_iff`**, **`read_eq_error_iff`** — which bundles are accepted, and what others are refused
  for.
-/

namespace ImageSigning.Bundle

/-- Octets from their start to the end of a block, and the certificates in their blocks, in order. Before
each block stands anything without an opening line. The block reaches from its opening line to the first
closing line, and there is no other opening line in it. -/
inductive Holds : Bytes → List Certificate → Prop
  | nil : Holds [] []
  | cons {gap opening body closing front : Bytes} {c : Certificate} {cs : List Certificate}
      (begins : IsFirst openings gap opening) (ends : IsFirst closings body closing)
      (single : Lacks openings (body ++ closing))
      (read : Certificate.ofPem (opening ++ body ++ closing) = .ok c) (others : Holds front cs) :
      Holds (gap ++ opening ++ (body ++ closing ++ front)) (c :: cs)

/-- Octets are refused behind so many blocks. -/
inductive Offends (number : Nat) : Bytes → Refusal → Prop
  /-- A block is opened and never closed. -/
  | truncated {gap opening inside : Bytes} (begins : IsFirst openings gap opening)
      (unclosed : Lacks closings inside) :
      Offends number (gap ++ opening ++ inside) (.problem (.truncated number))
  /-- Before a block is closed there is another opening line. -/
  | unterminated {gap opening body closing after : Bytes} (begins : IsFirst openings gap opening)
      (ends : IsFirst closings body closing) (several : ¬ Lacks openings (body ++ closing)) :
      Offends number (gap ++ opening ++ (body ++ closing ++ after)) (.problem (.unterminated number))
  /-- A block does not hold a certificate. -/
  | undecodable {gap opening body closing after : Bytes} {p : Certificate.EncodingProblem}
      (begins : IsFirst openings gap opening) (ends : IsFirst closings body closing)
      (single : Lacks openings (body ++ closing))
      (failed : Certificate.ofPem (opening ++ body ++ closing) = .error p)
      (other : p ≠ .certificate .unknownVersion) :
      Offends number (gap ++ opening ++ (body ++ closing ++ after))
        (.problem (.undecodable number p.wording))
  /-- A block holds a certificate of a version that does not exist. -/
  | unknownVersion {gap opening body closing after : Bytes} (begins : IsFirst openings gap opening)
      (ends : IsFirst closings body closing) (single : Lacks openings (body ++ closing))
      (failed : Certificate.ofPem (opening ++ body ++ closing)
        = .error (.certificate .unknownVersion)) :
      Offends number (gap ++ opening ++ (body ++ closing ++ after)) .unknownVersion

section
variable {b front tail rest body opening closing : Bytes} {cs : List Certificate} {r : Refusal}

/-! ## One block -/

/-- A block with a second opening line inside is not terminated. -/
theorem readBlock_of_several (number : Nat) (m : opening ∈ openings)
    (several : ¬ Lacks openings (body ++ closing)) :
    readBlock number (opening ++ body ++ closing) = .error (.problem (.unterminated number)) := by
  have count : markers (opening ++ body ++ closing) ≠ 1 := mt (markers_block_iff m).1 several
  rw [readBlock, if_pos count]

/-- A block without one is read as a certificate, and refused with what is wrong with it. -/
theorem readBlock_of_single (number : Nat) (m : opening ∈ openings)
    (single : Lacks openings (body ++ closing)) : readBlock number (opening ++ body ++ closing) =
      match Certificate.ofPem (opening ++ body ++ closing) with
      | .ok c => .ok c
      | .error (.certificate .unknownVersion) => .error .unknownVersion
      | .error p => .error (.problem (.undecodable number p.wording)) := by
  have count : ¬ markers (opening ++ body ++ closing) ≠ 1 :=
    not_not_intro ((markers_block_iff m).2 single)
  exact if_neg count

/-! ## All blocks -/

/-- The certificates of the front are read first, and then what stands behind it. -/
theorem Holds.readBlocks (h : Holds front cs) (number : Nat) (rest : Bytes) :
    readBlocks number (blocks (front ++ rest))
      = (readBlocks (number + cs.length) (blocks rest)).map (cs ++ ·) := by
  induction h generalizing number with
  | nil =>
    rw [List.nil_append, List.length_nil, Nat.add_zero]
    rcases Bundle.readBlocks number (blocks rest) with r | ds
    · rfl
    · rfl
  | @cons gap opening body closing front c cs begins ends single read others ih =>
    have whole : gap ++ opening ++ (body ++ closing ++ front) ++ rest
        = gap ++ opening ++ (body ++ closing ++ (front ++ rest)) := by
      simp only [List.append_assoc]
    have count : number + (c :: cs).length = number + 1 + cs.length := by
      rw [List.length_cons]
      omega
    rw [whole, blocks_of_closed begins ends, Bundle.readBlocks,
      readBlock_of_single number begins.1 single, read, Outcome.ok_bind, ih, count]
    rcases Bundle.readBlocks (number + 1 + cs.length) (blocks rest) with r | ds
    · rfl
    · rfl

/-- The front holds an opening line for each certificate. -/
theorem Holds.opens {n : Nat} (h : Holds front cs) (behind : Opens n rest) :
    Opens (cs.length + n) (front ++ rest) := by
  induction h with
  | nil =>
    rw [List.length_nil, Nat.zero_add]
    exact behind
  | @cons gap opening body closing front c cs begins ends single read others ih =>
    have whole : gap ++ opening ++ (body ++ closing ++ front) ++ rest
        = gap ++ opening ++ (body ++ closing ++ (front ++ rest)) := by
      simp only [List.append_assoc]
    have count : (c :: cs).length + n = cs.length + n + 1 := by
      rw [List.length_cons]
      omega
    rw [whole, count]
    exact .succ begins.1 (ih.of_suffix (List.suffix_append (body ++ closing) _))

/-- Behind the front there is no opening line any more, or something is at fault. -/
theorem exists_holds (b : Bytes) : ∃ front cs rest, b = front ++ rest ∧ Holds front cs ∧
    (Lacks openings rest ∨ ∀ number, ∃ r, Offends number rest r) := by
  induction size : b.length using Nat.strong_induction_on generalizing b with
  | _ n ih =>
    rcases lacks_or_exists_isFirst areApart_openings b with lacks | ⟨gap, opening, inside, rfl, begins⟩
    · exact ⟨[], [], b, rfl, .nil, .inl lacks⟩
    · rcases lacks_or_exists_isFirst areApart_closings inside
        with unclosed | ⟨body, closing, after, rfl, ends⟩
      · exact ⟨[], [], _, rfl, .nil, .inr fun number => ⟨_, .truncated begins unclosed⟩⟩
      · by_cases single : Lacks openings (body ++ closing)
        · rcases read : Certificate.ofPem (opening ++ body ++ closing) with p | c
          · refine ⟨[], [], _, rfl, .nil, .inr ?_⟩
            intro number
            by_cases version : p = .certificate .unknownVersion
            · exact ⟨_, .unknownVersion begins ends single (version ▸ read)⟩
            · exact ⟨_, .undecodable begins ends single read version⟩
          · have long := length_pos_of_mem (.inl begins.1)
            simp only [List.length_append] at size
            obtain ⟨front, cs, rest, rfl, holds, behind⟩ := ih after.length (by omega) after rfl
            refine ⟨_, c :: cs, rest, ?_, .cons begins ends single read holds, behind⟩
            simp only [List.append_assoc]
        · exact ⟨[], [], _, rfl, .nil, .inr fun number => ⟨_, .unterminated begins ends single⟩⟩

/-! ## The bundle -/

/-- As many opening lines are counted as there are certificates, unless one more can stand behind the
others. -/
theorem Holds.markers_eq_iff (h : Holds front cs) :
    markers (front ++ rest) = cs.length ↔ ¬ Opens (cs.length + 1) (front ++ rest) := by
  have least : cs.length ≤ markers (front ++ rest) := opens_iff.1 (h.opens (.zero rest))
  rw [opens_iff]
  omega

/-- If nothing is opened behind the front, the bundle is accepted or an opening line was passed over. -/
theorem Holds.read_of_lacks (h : Holds front cs) (lacks : Lacks openings tail) :
    read (front ++ tail) = if markers (front ++ tail) = cs.length then .ok cs
      else .error (.problem (.truncated cs.length)) := by
  have all : Bundle.readBlocks 0 (blocks (front ++ tail)) = .ok cs := by
    rw [h.readBlocks, blocks_of_lacks lacks]
    exact congrArg Except.ok (List.append_nil cs)
  rw [read, all, Outcome.ok_bind]
  rfl

/-- What is at fault behind the front is what the bundle is refused for. -/
theorem Holds.read_of_offends (h : Holds front cs) (offends : Offends cs.length rest r) :
    read (front ++ rest) = .error r := by
  have first := h.readBlocks 0 rest
  rw [Nat.zero_add] at first
  cases offends with
  | @truncated gap opening inside begins unclosed =>
    have all : Bundle.readBlocks 0 (blocks (front ++ (gap ++ opening ++ inside))) = .ok cs := by
      rw [first, blocks_of_unclosed begins unclosed]
      exact congrArg Except.ok (List.append_nil cs)
    have more : Opens 1 (gap ++ opening ++ inside) := .succ begins.1 (.zero inside)
    have count := mt h.markers_eq_iff.1 (not_not_intro (h.opens more))
    rw [read, all, Outcome.ok_bind, if_neg count]
    rfl
  | unterminated begins ends several =>
    rw [read, first, blocks_of_closed begins ends, Bundle.readBlocks,
      readBlock_of_several cs.length begins.1 several]
    rfl
  | @undecodable gap opening body closing after p begins ends single failed other =>
    rw [read, first, blocks_of_closed begins ends, Bundle.readBlocks,
      readBlock_of_single cs.length begins.1 single, failed]
    split
    · rename_i same
      cases same
    · rename_i same
      exact (other (Except.error.inj same)).elim
    · rename_i same
      rw [← Except.error.inj same]
      rfl
  | unknownVersion begins ends single failed =>
    rw [read, first, blocks_of_closed begins ends, Bundle.readBlocks,
      readBlock_of_single cs.length begins.1 single, failed]
    rfl

/-- A bundle is accepted exactly if no block is at fault and no opening line stands outside of the
blocks. -/
theorem read_eq_ok_iff : read b = .ok cs ↔ ∃ front tail, b = front ++ tail ∧ Holds front cs ∧
    Lacks openings tail ∧ ¬ Opens (cs.length + 1) b := by
  constructor
  · intro accepted
    obtain ⟨front, ds, rest, rfl, holds, lacks | offends⟩ := exists_holds b
    · rw [holds.read_of_lacks lacks] at accepted
      split at accepted
      · rename_i count
        obtain rfl := Except.ok.inj accepted
        exact ⟨front, rest, rfl, holds, lacks, holds.markers_eq_iff.1 count⟩
      · cases accepted
    · obtain ⟨r, offends⟩ := offends ds.length
      rw [holds.read_of_offends offends] at accepted
      cases accepted
  · rintro ⟨front, tail, rfl, holds, lacks, few⟩
    rw [holds.read_of_lacks lacks, if_pos (holds.markers_eq_iff.2 few)]

/-- A bundle is refused for the first block that is at fault, or for opening lines outside of the
blocks, when all blocks were read. -/
theorem read_eq_error_iff : read b = .error r ↔ ∃ front cs rest, b = front ++ rest ∧ Holds front cs ∧
    (Offends cs.length rest r ∨
      Lacks openings rest ∧ Opens (cs.length + 1) b ∧ r = .problem (.truncated cs.length)) := by
  constructor
  · intro refused
    obtain ⟨front, cs, rest, rfl, holds, lacks | offends⟩ := exists_holds b
    · rw [holds.read_of_lacks lacks] at refused
      split at refused
      · cases refused
      · rename_i count
        have more := not_not.1 (mt holds.markers_eq_iff.2 count)
        obtain rfl := Except.error.inj refused
        exact ⟨front, cs, rest, rfl, holds, .inr ⟨lacks, more, rfl⟩⟩
    · obtain ⟨r', offends⟩ := offends cs.length
      obtain rfl := Except.error.inj ((holds.read_of_offends offends).symm.trans refused)
      exact ⟨front, cs, rest, rfl, holds, .inl offends⟩
  · rintro ⟨front, cs, rest, rfl, holds, offends | ⟨lacks, more, rfl⟩⟩
    · exact holds.read_of_offends offends
    · rw [holds.read_of_lacks lacks, if_neg (mt holds.markers_eq_iff.1 (not_not_intro more))]

end

end ImageSigning.Bundle
