import ImageSigning.Proofs.Numbers
import ImageSigning.Der.SetOrder
import Mathlib.Data.List.Sort

/-!
# The order of a SET OF is an order

Filled up with zeros to a common width, encodings compare as the numbers they spell. The comparison is
therefore total and transitive, and sorting by it is insertion sort.

* **`precedes_iff`** — one encoding may stand before another exactly if its number is not greater.
* **`ordered_eq_insertionSort`** — the sorted members are those of insertion sort.
* **`ordered_ordered`** — sorting again changes nothing.
* **`map_orderedOn`** — sorting by encodings sorts the encodings.
-/

namespace ImageSigning.Der

/-- The number in octets that are filled up with zeros to a width. -/
def numberAt (width : Nat) (b : Bytes) : Nat := b.toNat * 256 ^ (width - b.length)

/-- The first octet counts most. -/
theorem numberAt_cons {width : Nat} {x : UInt8} {r : Bytes} (h : r.length ≤ width) :
    numberAt (width + 1) (x :: r) = x.toNat * 256 ^ width + numberAt width r := by
  have split : 256 ^ width = 256 ^ r.length * 256 ^ (width - r.length) := by
    rw [← pow_add]
    congr 1
    omega
  rw [numberAt, numberAt, Bytes.toNat_cons, List.length_cons, Nat.add_sub_add_right, split]
  ring

/-- The number that octets spell in a width is below 256 to the power of it. -/
theorem numberAt_lt {width : Nat} {b : Bytes} (h : b.length ≤ width) :
    numberAt width b < 256 ^ width := by
  have split : 256 ^ width = 256 ^ b.length * 256 ^ (width - b.length) := by
    rw [← pow_add]
    congr 1
    omega
  rw [numberAt, split]
  exact Nat.mul_lt_mul_of_pos_right (Bytes.toNat_lt b) (Nat.pow_pos (by omega))

/-- Without octets the number is zero. -/
theorem numberAt_nil (width : Nat) : numberAt width [] = 0 := by simp [numberAt]

/-- The number is zero exactly if all octets are. -/
theorem numberAt_eq_zero_iff {width : Nat} {b : Bytes} :
    numberAt width b = 0 ↔ b.all (· = 0) = true := by
  have zero : numberAt width b = 0 ↔ b.toNat = 0 := by simp [numberAt]
  refine zero.trans ?_
  clear zero
  induction b with
  | nil => simp
  | cons x r ih =>
    have joined : Bytes.toNat (x :: r) = 0 ↔ x = 0 ∧ Bytes.toNat r = 0 := by
      rw [Bytes.toNat_cons]
      simp [← UInt8.toNat_inj]
    have here : (x :: r).all (· = 0) = true ↔ x = 0 ∧ r.all (· = 0) = true := by simp
    exact joined.trans ((and_congr_right fun _ => ih).trans here.symm)

/-- A first octet decides unless it is the same on both sides. -/
theorem compare_digit {m n x y base : Nat} (hx : x < base) (hy : y < base) :
    compare (m * base + x) (n * base + y)
      = if m = n then compare x y else if m < n then .lt else .gt := by
  rcases lt_trichotomy m n with less | rfl | greater
  · have below : m * base + x < n * base + y := by
      calc m * base + x < (m + 1) * base := by rw [Nat.add_mul]; omega
        _ ≤ n * base := Nat.mul_le_mul_right _ less
        _ ≤ n * base + y := Nat.le_add_right _ _
    rw [if_neg (by omega), if_pos less, Nat.compare_eq_lt.2 below]
  · rw [if_pos rfl]
    rcases lt_trichotomy x y with less | rfl | greater
    · rw [Nat.compare_eq_lt.2 less, Nat.compare_eq_lt.2 (by omega)]
    · rw [Nat.compare_eq_eq.2 rfl, Nat.compare_eq_eq.2 rfl]
    · rw [Nat.compare_eq_gt.2 greater, Nat.compare_eq_gt.2 (by omega)]
  · have above : n * base + y < m * base + x := by
      calc n * base + y < (n + 1) * base := by rw [Nat.add_mul]; omega
        _ ≤ m * base := Nat.mul_le_mul_right _ greater
        _ ≤ m * base + x := Nat.le_add_right _ _
    rw [if_neg (by omega), if_neg (by omega), Nat.compare_eq_gt.2 above]

/-- Filled up to a common width, encodings compare as their numbers. -/
theorem compareOctets_eq {width : Nat} {x y : Bytes} (hx : x.length ≤ width)
    (hy : y.length ≤ width) :
    compareOctets x y = compare (numberAt width x) (numberAt width y) := by
  induction x generalizing y width with
  | nil =>
    unfold compareOctets
    rw [numberAt_nil]
    split
    · rename_i zeros
      rw [numberAt_eq_zero_iff.2 zeros]
      simp
    · rename_i other
      have positive : 0 < numberAt width y :=
        Nat.pos_of_ne_zero fun zero => other (numberAt_eq_zero_iff.1 zero)
      rw [Nat.compare_eq_lt.2 positive]
  | cons a r ih =>
    obtain ⟨width, rfl⟩ : ∃ v, width = v + 1 := ⟨width - 1, by simp at hx; omega⟩
    have fits : r.length ≤ width := by simpa using hx
    rw [numberAt_cons fits]
    match y with
    | [] =>
      have step := compare_digit (m := a.toNat) (n := 0) (numberAt_lt fits)
        (@numberAt_lt width [] (by simp))
      rw [numberAt_nil, Nat.zero_mul] at step
      have rest := ih fits (y := []) (by simp)
      rw [numberAt_nil] at rest
      rw [numberAt_nil, ← Nat.add_zero 0, step, ← rest, compareOctets]
      simp [← UInt8.toNat_inj]
    | b :: s =>
      have fits' : s.length ≤ width := by simpa using hy
      rw [numberAt_cons fits', compare_digit (numberAt_lt fits) (numberAt_lt fits'),
        ← ih fits fits', compareOctets]
      simp [UInt8.toNat_inj, UInt8.lt_iff_toNat_lt]

/-- One encoding may stand before another exactly if its number is not greater. -/
theorem precedes_iff {width : Nat} {x y : Bytes} (hx : x.length ≤ width) (hy : y.length ≤ width) :
    precedes x y = true ↔ numberAt width x ≤ numberAt width y := by
  rw [precedes, compareOctets_eq hx hy, bne_iff_ne, ne_eq, Nat.compare_eq_gt, not_lt]

/-- Whether the first encoding may stand before the second, as a relation. -/
abbrev Precedes (x y : Bytes) : Prop := precedes x y = true

instance : Std.Total Precedes where
  total x y := by
    unfold Precedes
    rw [precedes_iff (Nat.le_max_left x.length y.length) (Nat.le_max_right _ _),
      precedes_iff (Nat.le_max_right x.length y.length) (Nat.le_max_left _ _)]
    exact le_total _ _

instance : IsTrans Bytes Precedes where
  trans x y z hxy hyz := by
    have hx : x.length ≤ max x.length (max y.length z.length) := by omega
    have hy : y.length ≤ max x.length (max y.length z.length) := by omega
    have hz : z.length ≤ max x.length (max y.length z.length) := by omega
    unfold Precedes
    rw [precedes_iff hx hz]
    exact ((precedes_iff hx hy).1 hxy).trans ((precedes_iff hy hz).1 hyz)

/-! ## Sorting -/

/-- Placing a member is inserting it by the order of the set. -/
theorem place_eq_orderedInsert (x : Bytes) (members : List Bytes) :
    place x members = members.orderedInsert Precedes x := by
  induction members with
  | nil => rfl
  | cons y r ih => rw [place, ih, List.orderedInsert_cons]

/-- The sorted members are those of insertion sort. -/
theorem ordered_eq_insertionSort (members : List Bytes) :
    ordered members = members.insertionSort Precedes := by
  induction members with
  | nil => rfl
  | cons x r ih => rw [ordered, ih, place_eq_orderedInsert, List.insertionSort_cons]

/-- In a set in order each member precedes those behind it. -/
theorem pairwise_ordered (members : List Bytes) : (ordered members).Pairwise Precedes := by
  rw [ordered_eq_insertionSort]
  exact List.pairwise_insertionSort Precedes members

/-- Sorting again changes nothing. -/
@[simp] theorem ordered_ordered (members : List Bytes) :
    ordered (ordered members) = ordered members := by
  rw [ordered_eq_insertionSort (ordered members)]
  exact (pairwise_ordered members).insertionSort_eq

/-- Things in the order of their encodings. -/
def orderedOn {α : Type} (f : α → Bytes) (l : List α) : List α :=
  l.insertionSort fun a b => Precedes (f a) (f b)

/-- Sorting by encodings sorts the encodings. -/
theorem map_orderedOn {α : Type} (f : α → Bytes) (l : List α) :
    (orderedOn f l).map f = ordered (l.map f) := by
  rw [ordered_eq_insertionSort, orderedOn]
  exact List.map_insertionSort _ _ f l fun a _ b _ => Iff.rfl

/-- Putting things in the order of their octets neither adds nor loses any. -/
theorem orderedOn_perm {α : Type} (f : α → Bytes) (l : List α) : (orderedOn f l).Perm l :=
  List.perm_insertionSort _ l

end ImageSigning.Der
