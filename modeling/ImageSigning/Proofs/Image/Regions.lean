import Mathlib.Data.List.Sort
import ImageSigning.Image.Regions
import ImageSigning.Proofs.Bytes
import ImageSigning.Proofs.Outcome

/-!
# The regions of a digest

The regions that a digest covers are given by six ends, and each of them has to be the right one: an octet
too few and it can be changed without notice, one too many and signing itself changes what was signed. So
the regions are compared with the positions outside the two fields. They come in order and no two overlap,
so the positions in them are an increasing list, and increasing lists with the same members are the same
list.

* **`Covers.positionsIn_eq`** — regions that cover what is outside the fields list those positions in
  order.
* **`signableRegions_eq_ok`**, **`covers_of_signableRegions`** — when the regions of a digest are known, and
  that they do.
* **`withoutFields_eq_iff`** — octets with the fields taken out are the same exactly if they agree outside
  the fields.
* **`signedContent_eq_ok`**, **`signedContent_congr`** — what is hashed is the octets with the fields taken
  out, and depends on nothing else.
-/

namespace ImageSigning.Image

open Bytes

/-! ## The positions in regions -/

/-- The positions in the regions, one region after the other. -/
def positionsIn (regions : List (Nat × Nat)) : List Nat :=
  regions.flatMap fun (start, stop) => List.range' start (stop - start)

section
variable {regions : List (Nat × Nat)} {data : Bytes}

/-- A position is in regions if it is in one of them. -/
theorem mem_positionsIn {n : Nat} :
    n ∈ positionsIn regions ↔ ∃ r ∈ regions, r.1 ≤ n ∧ n < r.2 := by
  simp only [positionsIn, List.mem_flatMap, List.mem_range'_1]
  refine exists_congr fun r => and_congr_right fun _ => and_congr_right fun above => ?_
  omega

/-- If each region ends before the next one begins, the positions in them increase. -/
theorem pairwise_positionsIn (ordered : regions.Pairwise fun r s => r.2 ≤ s.1) :
    (positionsIn regions).Pairwise (· < ·) := by
  refine List.pairwise_flatMap.2 ⟨fun r _ => List.pairwise_lt_range', ordered.imp ?_⟩
  intro r s apart n here m there
  rw [List.mem_range'_1] at here there
  omega

/-- The octets of regions are those at their positions. -/
theorem octetsIn_eq_map (inside : ∀ r ∈ regions, r.2 ≤ data.length) :
    octetsIn data regions = (positionsIn regions).map (octetAt data) := by
  rw [octetsIn, positionsIn, List.map_flatMap]
  exact List.flatMap_congr fun r m => slice_eq_map (inside r m)

end

/-! ## The positions outside the fields -/

/-- Both fields lie inside octets of this number, the checksum first. -/
def FieldsInside (size : Nat) (c e : Int) : Prop :=
  0 ≤ c ∧ c + 4 ≤ e ∧ e + 8 ≤ size

/-- Fields stand inside exactly if their offsets are positions, the checksum first, and room is left. -/
theorem fieldsInside_iff {size : Nat} {i j : Int} : FieldsInside size i j ↔
    ∃ c e : Nat, i = c ∧ j = e ∧ c + 4 ≤ e ∧ e + 8 ≤ size := by
  constructor
  · rintro ⟨start, apart, stop⟩
    exact ⟨i.toNat, j.toNat, by omega, by omega, by omega, by omega⟩
  · rintro ⟨c, e, rfl, rfl, apart, stop⟩
    exact ⟨by omega, by omega, by omega⟩

/-- The position is in neither field. -/
def IsOutside (c e : Int) (n : Nat) : Prop :=
  ((n : Int) < c ∨ c + 4 ≤ n) ∧ ((n : Int) < e ∨ e + 8 ≤ n)

instance (c e : Int) (n : Nat) : Decidable (IsOutside c e n) :=
  inferInstanceAs (Decidable (_ ∧ _))

/-- The octets with those of the two fields taken out. -/
def withoutFields (data : Bytes) (c e : Int) : Bytes :=
  ((List.range data.length).filter fun n => IsOutside c e n).map (octetAt data)

/-- Regions that cover what is outside the fields, no position twice. -/
structure Covers (size : Nat) (c e : Int) (regions : List (Nat × Nat)) : Prop where
  /-- Each region ends before the later ones begin. -/
  ordered : regions.Pairwise fun r s => r.2 ≤ s.1
  /-- No region ends before it begins, or past the octets. -/
  inside : ∀ r ∈ regions, r.1 ≤ r.2 ∧ r.2 ≤ size
  /-- A position is in a region exactly if it is in neither field. -/
  covered : ∀ n, (∃ r ∈ regions, r.1 ≤ n ∧ n < r.2) ↔ n < size ∧ IsOutside c e n

section
variable {size : Nat} {c e : Int} {regions : List (Nat × Nat)} {data other : Bytes}

/-- Regions that cover what is outside the fields list those positions in order. -/
theorem Covers.positionsIn_eq (h : Covers size c e regions) :
    positionsIn regions = (List.range size).filter fun n => IsOutside c e n := by
  refine (pairwise_positionsIn h.ordered).eq_of_mem_iff (List.pairwise_lt_range.filter _) fun n => ?_
  rw [mem_positionsIn, h.covered, List.mem_filter, List.mem_range, decide_eq_true_iff]

/-- What is covered is all but the two fields. -/
theorem Covers.octetsIn_eq (h : Covers data.length c e regions) :
    octetsIn data regions = withoutFields data c e := by
  rw [octetsIn_eq_map fun r m => (h.inside r m).2, h.positionsIn_eq, withoutFields]

/-- Octets with the fields taken out are the same exactly if they agree outside the fields. -/
theorem withoutFields_eq_iff (length : other.length = data.length) :
    withoutFields other c e = withoutFields data c e ↔
      ∀ n, IsOutside c e n → other[n]? = data[n]? := by
  rw [withoutFields, withoutFields, length, List.map_inj_left]
  constructor
  · intro same n outside
    rcases lt_or_ge n data.length with here | past
    · have there : n < other.length := by omega
      have equal := same n (by simp [here, outside])
      simpa [octetAt, here, there] using equal
    · rw [List.getElem?_eq_none past, List.getElem?_eq_none (by omega)]
  · intro same n m
    obtain ⟨-, outside⟩ := List.mem_filter.1 m
    rw [octetAt, octetAt, same n (of_decide_eq_true outside)]

/-! ## The regions of a digest -/

/-- There are regions exactly if the fields stand inside, and they lie around the fields. -/
theorem signableRegions_eq_ok : signableRegions size c e = .ok regions ↔
    FieldsInside size c e ∧
      regions = [(0, c.toNat), (c.toNat + 4, e.toNat), (e.toNat + 8, size)] := by
  unfold signableRegions checksumSize directoryEntrySize FieldsInside
  split
  · rename_i before
    simp only [reduceCtorEq, false_iff]
    omega
  · rename_i after
    split
    · simp only [reduceCtorEq, false_iff]
      omega
    · rw [Except.ok.injEq, eq_comm, iff_and_self]
      omega

/-- The regions of a digest cover what is outside the fields. -/
theorem covers_of_signableRegions (h : signableRegions size c e = .ok regions) :
    Covers size c e regions := by
  obtain ⟨inside, rfl⟩ := signableRegions_eq_ok.1 h
  obtain ⟨c, e, rfl, rfl, apart, stop⟩ := fieldsInside_iff.1 inside
  rw [Int.toNat_natCast, Int.toNat_natCast]
  refine ⟨?_, ?_, fun n => ?_⟩
  · simp only [List.pairwise_cons, List.forall_mem_cons, List.not_mem_nil, false_imp_iff,
      implies_true, List.Pairwise.nil, and_true]
    omega
  · simp only [List.forall_mem_cons, List.not_mem_nil, false_imp_iff, implies_true, and_true]
    omega
  · simp only [List.mem_cons, List.not_mem_nil, or_false, exists_eq_or_imp, exists_eq_left, IsOutside]
    omega

/-- Where there are regions, the checksum stands before the directory's place, and both inside. -/
theorem le_of_signableRegions {c e : Nat} (h : signableRegions size c e = .ok regions) :
    c + 4 ≤ e ∧ e + 8 ≤ size := by
  obtain ⟨-, apart, stop⟩ := (signableRegions_eq_ok.1 h).1
  omega

/-- The two fields have twelve octets together. -/
theorem length_withoutFields (inside : FieldsInside data.length c e) :
    (withoutFields data c e).length + 12 = data.length := by
  have covers := covers_of_signableRegions (signableRegions_eq_ok.2 ⟨inside, rfl⟩)
  obtain ⟨start, apart, stop⟩ := inside
  rw [withoutFields, List.length_map, ← covers.positionsIn_eq]
  simp only [positionsIn, List.flatMap_cons, List.flatMap_nil, List.length_append, List.length_range',
    List.length_nil]
  omega

/-! ## What is hashed -/

/-- What is hashed is the octets with the fields taken out. -/
theorem signedContent_eq_ok {content : Bytes} : signedContent data c e = .ok content ↔
    FieldsInside data.length c e ∧ content = withoutFields data c e := by
  rw [signedContent, Outcome.map_eq_ok]
  constructor
  · rintro ⟨regions, known, rfl⟩
    exact ⟨(signableRegions_eq_ok.1 known).1, (covers_of_signableRegions known).octetsIn_eq⟩
  · rintro ⟨inside, rfl⟩
    have known := signableRegions_eq_ok.2 ⟨inside, rfl⟩
    exact ⟨_, known, (covers_of_signableRegions known).octetsIn_eq⟩

/-- The digest is that of all octets but the two fields. -/
theorem imageDigest_eq_ok {a : DigestAlgorithm} {d : Digest} : imageDigest a data c e = .ok d ↔
    FieldsInside data.length c e ∧ d = Digest.compute a (withoutFields data c e) := by
  rw [imageDigest, Outcome.map_eq_ok]
  constructor
  · rintro ⟨content, hashed, rfl⟩
    obtain ⟨inside, rfl⟩ := signedContent_eq_ok.1 hashed
    exact ⟨inside, rfl⟩
  · rintro ⟨inside, rfl⟩
    exact ⟨_, signedContent_eq_ok.2 ⟨inside, rfl⟩, rfl⟩

/-- Octets of the same number that agree outside the fields are hashed alike, or refused alike. -/
theorem signedContent_congr (length : other.length = data.length)
    (same : ∀ n, IsOutside c e n → other[n]? = data[n]?) :
    signedContent other c e = signedContent data c e := by
  unfold signedContent
  rw [length]
  rcases known : signableRegions data.length c e with p | regions
  · rfl
  · have covers := covers_of_signableRegions known
    change Except.ok _ = Except.ok _
    rw [covers.octetsIn_eq, Covers.octetsIn_eq (length ▸ covers),
      (withoutFields_eq_iff length).2 same]

end

end ImageSigning.Image
