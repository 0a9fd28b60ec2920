import ImageSigning.Proofs.Pem
import ImageSigning.Proofs.Certificate
import Mathlib.Data.List.Infix

/-!
# Bundles that are written

What stands between the two lines of a written block, letters and padding of base64, holds no hyphen,
so the lines are found where they were written and nowhere else. A bundle that is written block by block
is therefore read as the certificates that it was written from.

* **`findLine?_append`** — octets in which no line can begin are passed over.
* **`read_write`** — a bundle is read as the certificates in it.
-/

namespace ImageSigning

/-! ## A bundle -/

namespace Certificate

/-- A certificate that was read has octets. -/
theorem IsRead.der_ne_nil {c : Certificate} (h : c.IsRead) : c.der ≠ [] := by
  intro nothing
  rw [IsRead, nothing] at h
  cases h

/-- A written block of a certificate is read as the certificate. -/
theorem IsRead.ofPem_block {c : Certificate} (h : c.IsRead) :
    ofPem (Pem.openingLine ++ ([10] ++ Pem.body c.der) ++ Pem.closingLine) = .ok c := by
  have labelled : labels.contains "CERTIFICATE" = true := by decide
  rw [ofPem, Pem.readAll_block h.der_ne_nil]
  simp only [Except.mapError, Outcome.ok_bind, List.find?_cons, labelled]
  rw [show ofDer c.der = .ok c from h]

end Certificate

namespace Bundle

open Pem

/-- Octets in which none of the lines can begin. -/
def ArePassedOver (lines : List Bytes) (p : Bytes) : Prop :=
  ∀ t ∈ p.tails, t ≠ [] → ∀ l ∈ lines, ¬ l <+: t ∧ ¬ t <+: l

instance (lines : List Bytes) (p : Bytes) : Decidable (ArePassedOver lines p) :=
  inferInstanceAs (Decidable (∀ t ∈ p.tails, t ≠ [] → ∀ l ∈ lines, ¬ l <+: t ∧ ¬ t <+: l))

/-- Octets without hyphens are passed over. -/
theorem arePassedOver_of_not_mem {lines : List Bytes} {p : Bytes}
    (hyphens : ∀ l ∈ lines, l.head? = some 45) (h : 45 ∉ p) : ArePassedOver lines p := by
  intro t suffix filled l m
  obtain ⟨x, t, rfl⟩ := List.exists_cons_of_ne_nil filled
  obtain ⟨l, rfl⟩ := List.head?_eq_some_iff.1 (hyphens l m)
  have other : x ≠ 45 := by
    rintro rfl
    exact h (((List.mem_tails _ _).1 suffix).subset (List.mem_cons_self ..))
  constructor
  · rintro ⟨r, same⟩
    exact other (List.cons.inj same).1.symm
  · rintro ⟨r, same⟩
    exact other (List.cons.inj same).1

/-- Octets in which no line can begin are passed over. -/
theorem findLine?_append {lines : List Bytes} {p : Bytes} (h : ArePassedOver lines p) (r : Bytes) :
    findLine? lines (p ++ r)
      = (findLine? lines r).map fun (before, line, after) => (p ++ before, line, after) := by
  induction p with
  | nil => simp
  | cons x p ih =>
    have noneBegins : lines.find? (·.isPrefixOf (x :: (p ++ r))) = none := by
      rw [List.find?_eq_none]
      intro l m starts
      obtain ⟨long, short⟩ := h (x :: p) (by simp) (by simp) l m
      rcases List.prefix_or_prefix_of_prefix (List.isPrefixOf_iff_prefix.1 starts)
        (List.prefix_append (x :: p) r) with here | here
      · exact long here
      · exact short here
    have rest := ih fun t suffix => h t <| (List.mem_tails _ _).2 <|
      ((List.mem_tails _ _).1 suffix).trans (List.suffix_cons x p)
    rw [List.cons_append, findLine?, noneBegins, rest, Option.map_map]
    rfl

/-- A bundle has one more marker than what stands behind its first opening line. -/
theorem markers_eq (b : Bytes) : markers b =
    match findLine? openings b with
    | none => 0
    | some (_, _, after) => markers after + 1 := by
  rw [markers]
  split
  · rename_i h
    rw [h]
  · rename_i h
    rw [h]

/-- The first block ends at the first closing line behind its opening line; without one there are no
more blocks. -/
theorem blocks_eq (b : Bytes) : blocks b =
    match findLine? openings b with
    | none => []
    | some (_, opening, inside) =>
      match findLine? closings inside with
      | none => []
      | some (body, closing, after) => (opening ++ body ++ closing) :: blocks after := by
  rw [blocks]
  split
  · rename_i h
    rw [h]
  · rename_i h
    rw [h]
    dsimp only
    split
    · rename_i h'
      rw [h']
    · rename_i h'
      rw [h']

/-- Octets that are passed over announce no block. -/
theorem markers_append {p : Bytes} (h : ArePassedOver openings p) (b : Bytes) :
    markers (p ++ b) = markers b := by
  rw [markers_eq (p ++ b), findLine?_append h, markers_eq b]
  rcases findLine? openings b with _ | ⟨before, line, after⟩
  · rfl
  · rfl

/-- Octets that are passed over hold no block. -/
theorem blocks_append {p : Bytes} (h : ArePassedOver openings p) (b : Bytes) :
    blocks (p ++ b) = blocks b := by
  rw [blocks_eq (p ++ b), findLine?_append h, blocks_eq b]
  rcases findLine? openings b with _ | ⟨before, line, after⟩
  · rfl
  · rfl

/-! ### Written blocks -/

/-- A line is found where octets begin with it. -/
theorem findLine?_openingLine (r : Bytes) :
    findLine? openings (openingLine ++ r) = some ([], openingLine, r) := rfl

/-- A closing line at the very beginning is found there. -/
theorem findLine?_closingLine (r : Bytes) :
    findLine? closings (closingLine ++ r) = some ([], closingLine, r) := rfl

/-- Base64 is passed over in the search for either kind of line: it holds no hyphen. -/
theorem arePassedOver_body (b : Bytes) :
    ArePassedOver openings ([10] ++ body b) ∧ ArePassedOver closings ([10] ++ body b) := by
  have noDash : 45 ∉ [10] ++ body b := by
    intro m
    rcases List.mem_append.1 m with m | m
    · exact absurd (List.mem_singleton.1 m) (by decide)
    · exact not_mem_body m
  exact ⟨arePassedOver_of_not_mem (by decide) noDash, arePassedOver_of_not_mem (by decide) noDash⟩

/-- A written block is taken whole, and what follows it by itself. -/
theorem blocks_write_append (b r : Bytes) : blocks (Pem.write "CERTIFICATE" b ++ r)
    = (openingLine ++ ([10] ++ body b) ++ closingLine) :: blocks r := by
  have line : ArePassedOver openings [10] := by decide
  have closed : findLine? closings ([10] ++ body b ++ (closingLine ++ ([10] ++ r)))
      = some ([10] ++ body b, closingLine, [10] ++ r) := by
    rw [findLine?_append (arePassedOver_body b).2, findLine?_closingLine]
    simp
  have whole : Pem.write "CERTIFICATE" b ++ r
      = openingLine ++ ([10] ++ body b ++ (closingLine ++ ([10] ++ r))) := by
    rw [Pem.write_eq]
    simp only [List.append_assoc]
  rw [whole, blocks_eq, findLine?_openingLine]
  dsimp only
  rw [closed]
  dsimp only
  rw [blocks_append line]

/-- A written block has one line that opens it. -/
theorem markers_write_append (b r : Bytes) :
    markers (Pem.write "CERTIFICATE" b ++ r) = markers r + 1 := by
  have line : ArePassedOver openings (closingLine ++ [10]) := by decide
  have whole : Pem.write "CERTIFICATE" b ++ r
      = openingLine ++ ([10] ++ body b ++ (closingLine ++ [10] ++ r)) := by
    rw [Pem.write_eq]
    simp only [List.append_assoc]
  rw [whole, markers_eq, findLine?_openingLine]
  dsimp only
  rw [markers_append (arePassedOver_body b).1, markers_append line]

/-- A block that was written has one marker. -/
theorem markers_block (b : Bytes) :
    markers (openingLine ++ ([10] ++ body b) ++ closingLine) = 1 := by
  have noOpening : findLine? openings closingLine = none := by decide
  rw [List.append_assoc, markers_eq, findLine?_openingLine]
  dsimp only
  rw [markers_append (arePassedOver_body b).1, markers_eq, noOpening]

/-- The text of certificates, one block after the other. -/
def write (cs : List Certificate) : Bytes := cs.flatMap fun c => Pem.write "CERTIFICATE" c.der

/-- A bundle that was written is read as the certificates in it. -/
theorem read_write {cs : List Certificate} (h : ∀ c ∈ cs, c.IsRead) : read (write cs) = .ok cs := by
  have count : markers (write cs) = cs.length := by
    induction cs with
    | nil =>
      rw [markers_eq]
      rfl
    | cons c cs ih =>
      rw [write, List.flatMap_cons, markers_write_append, List.length_cons]
      exact congrArg (· + 1) (ih fun d m => h d (by simp [m]))
  have each (number : Nat) : readBlocks number (blocks (write cs)) = .ok cs := by
    clear count
    induction cs generalizing number with
    | nil =>
      rw [blocks_eq]
      rfl
    | cons c cs ih =>
      have here : readBlock number (openingLine ++ ([10] ++ body c.der) ++ closingLine) = .ok c := by
        rw [readBlock, markers_block, (h c (by simp)).ofPem_block]
        rfl
      have rest := ih (fun d m => h d (by simp [m])) (number + 1)
      rw [write, List.flatMap_cons, blocks_write_append, readBlocks, here]
      simp only [Outcome.ok_bind]
      rw [← write, rest]
      rfl
  rw [read, each]
  simp only [Outcome.ok_bind, count, if_true]
  rfl

end Bundle

end ImageSigning
