import ImageSigning.Certificate.Encoding
import ImageSigning.Failure.Chain

/-!
# Bundles of certificates

A bundle is text with blocks of certificates in it; what stands between the blocks is passed over.
Each block is read by itself, from its opening line to the first closing line after it, and a block
that holds another opening line was never closed. A bundle is taken whole or refused at the first
block that is at fault.

* `read`: the certificates of a bundle, in order.
* `markers`: how many opening lines there are; a bundle that is accepted has one for each
  certificate.
-/

namespace ImageSigning.Bundle

/-- The lines that open a block. -/
def openings : List Bytes :=
  ["-----BEGIN CERTIFICATE-----", "-----BEGIN X509 CERTIFICATE-----",
    "-----BEGIN TRUSTED CERTIFICATE-----"].map Bytes.ofAscii

/-- The lines that close a block. -/
def closings : List Bytes :=
  ["-----END CERTIFICATE-----", "-----END X509 CERTIFICATE-----",
    "-----END TRUSTED CERTIFICATE-----"].map Bytes.ofAscii

/-- The first occurrence of one of the lines: what stands before it, the line, and what follows. -/
def findLine? (lines : List Bytes) : Bytes → Option (Bytes × Bytes × Bytes)
  | [] => none
  | x :: r =>
    match lines.find? (·.isPrefixOf (x :: r)) with
    | some line => some ([], line, (x :: r).drop line.length)
    | none => (findLine? lines r).map fun (before, line, after) => (x :: before, line, after)

/-- What stands before and after an occurrence, and the line between them, are all there is. -/
theorem findLine?_eq {lines : List Bytes} {b before line after : Bytes}
    (h : findLine? lines b = some (before, line, after)) :
    b = before ++ line ++ after ∧ line ∈ lines := by
  induction b generalizing before with
  | nil => simp [findLine?] at h
  | cons x r ih =>
    simp only [findLine?] at h
    split at h
    · rename_i found
      simp only [Option.some.injEq, Prod.mk.injEq] at h
      obtain ⟨rfl, rfl, rfl⟩ := h
      have holds := List.find?_some found
      have starts := List.isPrefixOf_iff_prefix.1 holds
      refine ⟨?_, List.mem_of_find?_eq_some found⟩
      obtain ⟨t, eq⟩ := starts
      simp [← eq]
    · obtain ⟨⟨before', line', after'⟩, found, eq⟩ := Option.map_eq_some_iff.1 h
      simp only [Prod.mk.injEq] at eq
      obtain ⟨rfl, rfl, rfl⟩ := eq
      obtain ⟨whole, member⟩ := ih found
      exact ⟨by simp [whole], member⟩

/-- The lines that open and close blocks are not empty. -/
theorem length_pos_of_mem {line : Bytes} (h : line ∈ openings ∨ line ∈ closings) :
    0 < line.length := by
  have openingsLong : ∀ l ∈ openings, 0 < l.length := by decide
  have closingsLong : ∀ l ∈ closings, 0 < l.length := by decide
  rcases h with h | h
  · exact openingsLong _ h
  · exact closingsLong _ h

/-- Behind a line that opens a block less is left. -/
theorem findOpening_lt {b before line after : Bytes}
    (h : findLine? openings b = some (before, line, after)) : after.length < b.length := by
  obtain ⟨eq, member⟩ := findLine?_eq h
  have := length_pos_of_mem (.inl member)
  simp [eq]
  omega

/-- Behind a line that closes a block less is left. -/
theorem findClosing_lt {b before line after : Bytes}
    (h : findLine? closings b = some (before, line, after)) : after.length < b.length := by
  obtain ⟨eq, member⟩ := findLine?_eq h
  have := length_pos_of_mem (.inr member)
  simp [eq]
  omega

/-- How many opening lines there are. -/
def markers (b : Bytes) : Nat :=
  match _h : findLine? openings b with
  | none => 0
  | some (_, _, after) => markers after + 1
termination_by b.length
decreasing_by exact findOpening_lt _h

/-- The blocks, each from its opening to the first closing line. -/
def blocks (b : Bytes) : List Bytes :=
  match _h : findLine? openings b with
  | none => []
  | some (_, opening, inside) =>
    match _h' : findLine? closings inside with
    | none => []
    | some (body, closing, after) => (opening ++ body ++ closing) :: blocks after
termination_by b.length
decreasing_by exact Nat.lt_trans (findClosing_lt _h') (findOpening_lt _h)

/-- Why a bundle is refused. -/
inductive Refusal where
  /-- A problem that reports are written for. -/
  | problem (p : ChainProblem)
  /-- A certificate of a version that does not exist. -/
  | unknownVersion
  deriving DecidableEq, Repr

/-- The certificate in the block of the given number. -/
def readBlock (number : Nat) (block : Bytes) : Except Refusal Certificate :=
  if markers block ≠ 1 then .error (.problem (.unterminated number))
  else
    match Certificate.ofPem block with
    | .ok c => .ok c
    | .error (.certificate .unknownVersion) => .error .unknownVersion
    | .error p => .error (.problem (.undecodable number p.wording))

/-- The certificates in blocks, numbered from `number` on. -/
def readBlocks : Nat → List Bytes → Except Refusal (List Certificate)
  | _, [] => .ok []
  | number, block :: r => do
    let c ← readBlock number block
    let cs ← readBlocks (number + 1) r
    return c :: cs

/-- The certificates of a bundle. -/
def read (b : Bytes) : Except Refusal (List Certificate) := do
  let certificates ← readBlocks 0 (blocks b)
  if markers b = certificates.length then return certificates
  else throw (.problem (.truncated certificates.length))

end ImageSigning.Bundle
