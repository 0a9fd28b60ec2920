import ImageSigning.Bytes
import Mathlib.Data.Nat.Log
import Mathlib.Tactic.Ring

/-!
# Numbers in octets

Numbers are written in a fixed width in either order, or in the fewest octets. Reading gives back what
fits the width, and the fewest octets always fit.

* **`toNat_append`** — the number in two runs of octets, one behind the other.
* **`toNat_minimal`** — the shortest writing reads back.
* **`octetCount_le_iff`** — a number takes at most `k` octets exactly if it is below `256 ^ k`.
-/

namespace ImageSigning.Bytes

/-! ## Most significant octet first -/

/-- Without octets the number is zero. -/
@[simp] theorem toNat_nil : toNat [] = 0 := rfl

/-- Reading octets goes on from the number read so far. -/
theorem foldl_eq (b : Bytes) (n : Nat) :
    b.foldl (fun n x => n * 256 + x.toNat) n = n * 256 ^ b.length + toNat b := by
  unfold toNat
  induction b generalizing n with
  | nil => simp
  | cons x r ih =>
    rw [List.foldl_cons, List.foldl_cons, ih, ih (0 * 256 + x.toNat), List.length_cons, pow_succ]
    ring

/-- The number in two runs of octets, one behind the other. -/
theorem toNat_append (a b : Bytes) : toNat (a ++ b) = toNat a * 256 ^ b.length + toNat b := by
  rw [toNat, List.foldl_append, foldl_eq b]
  rfl

/-- The first octet counts most. -/
theorem toNat_cons (x : UInt8) (r : Bytes) :
    toNat (x :: r) = x.toNat * 256 ^ r.length + toNat r := by
  have joined := toNat_append [x] r
  simpa [toNat] using joined

/-- The number that octets spell is below 256 to the power of their count. -/
theorem toNat_lt (b : Bytes) : toNat b < 256 ^ b.length := by
  induction b with
  | nil => simp
  | cons x r ih =>
    have octet : x.toNat + 1 ≤ 256 := x.toNat_lt
    rw [toNat_cons, List.length_cons, pow_succ]
    calc x.toNat * 256 ^ r.length + toNat r
        < x.toNat * 256 ^ r.length + 256 ^ r.length := by omega
      _ = (x.toNat + 1) * 256 ^ r.length := by ring
      _ ≤ 256 * 256 ^ r.length := Nat.mul_le_mul_right _ octet
      _ = 256 ^ r.length * 256 := by ring

/-- Turning the octets round turns one order into the other. -/
theorem toNat_reverse (b : Bytes) : toNat b.reverse = toNatLE b := by
  induction b with
  | nil => rfl
  | cons x r ih =>
    rw [List.reverse_cons, toNat_append, ih, toNatLE]
    simp [toNat]
    ring

/-- Octets that were written spell the number, as far as it fits. -/
theorem toNat_ofNat (width n : Nat) : toNat (ofNat width n) = n % 256 ^ width := by
  rw [ofNat, toNat_reverse, toNatLE_ofNatLE, Nat.pow_eq]

/-! ## The fewest octets -/

/-- A number takes at most `k` octets exactly if it is below `256 ^ k`. -/
theorem octetCount_le_iff {n k : Nat} : octetCount n ≤ k ↔ n < 256 ^ k := by
  have power : (256 : Nat) ^ k = 2 ^ (8 * k) := by
    rw [pow_mul]
    norm_num
  unfold octetCount
  split
  · rename_i zero
    simp [zero]
  · rename_i positive
    rw [power, ← Nat.log2_lt positive]
    omega

/-- A number fits into as many octets as it takes. -/
theorem lt_pow_octetCount (n : Nat) : n < 256 ^ octetCount n :=
  octetCount_le_iff.1 le_rfl

/-- A number that is not zero takes an octet. -/
theorem octetCount_pos {n : Nat} (h : 0 < n) : 0 < octetCount n := by
  unfold octetCount
  split <;> omega

/-- A number is written in as many octets as it takes. -/
@[simp] theorem length_minimal (n : Nat) : (minimal n).length = octetCount n := length_ofNat _ _

/-- The shortest writing reads back. -/
@[simp] theorem toNat_minimal (n : Nat) : toNat (minimal n) = n := by
  rw [minimal, toNat_ofNat, Nat.mod_eq_of_lt (lt_pow_octetCount n)]

/-- The shortest writing does not begin with a zero. -/
theorem head_minimal_ne_zero {n : Nat} {x : UInt8} {r : Bytes} (h : minimal n = x :: r) :
    x ≠ 0 := by
  rintro rfl
  have value : toNat r = n := by
    rw [← toNat_minimal n, h, toNat_cons]
    simp
  have count : octetCount n = r.length + 1 := by rw [← length_minimal, h, List.length_cons]
  have short : octetCount n ≤ r.length := octetCount_le_iff.2 (value ▸ toNat_lt r)
  omega

/-! ## Least significant octet first -/

/-- A number that fits is spelled by the octets that it is written as. -/
theorem toNatLE_ofNatLE_of_lt {width n : Nat} (h : n < 256 ^ width) :
    toNatLE (ofNatLE width n) = n := by
  rw [toNatLE_ofNatLE, Nat.pow_eq, Nat.mod_eq_of_lt h]

end ImageSigning.Bytes
