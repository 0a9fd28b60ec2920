import ImageSigning.Proofs.Numbers

/-!
# Octets by position

What a file says is read at positions: a number is in the octets from one position on, and a region
runs from one position to another. Past the end there are zeros, as far as numbers go, so that filling
a file up with zeros changes no number in it.

* **`slice_middle`** — the middle one of three runs of octets.
* **`numberIn`** — the number at a position, least significant octet first.
* **`numberIn_congr`** — a number depends on its own octets only.
* **`slice_congr`** — so does a region.
* **`slice_append_slice`**, **`slice_eq_map`** — regions one behind the other, and position by position.
-/

namespace ImageSigning.Bytes

/-- The middle one of three runs of octets. -/
theorem slice_middle {a b : Bytes} {start stop : Nat} (before : a.length = start)
    (here : start + b.length = stop) (c : Bytes) : (a ++ (b ++ c)).slice start stop = b := by
  subst before here
  rw [slice, List.take_length_add_append, List.take_left, List.drop_left]

/-- The octet at a position; zero past the end. -/
def octetAt (b : Bytes) (n : Nat) : UInt8 := b[n]?.getD 0

/-- The number in `width` octets from a position on, least significant first. -/
def numberIn (b : Bytes) (offset : Nat) : Nat → Nat
  | 0 => 0
  | width + 1 => (octetAt b offset).toNat + 256 * numberIn b (offset + 1) width

/-- Behind the first octet, positions count on. -/
theorem octetAt_cons_succ (x : UInt8) (b : Bytes) (n : Nat) :
    octetAt (x :: b) (n + 1) = octetAt b n := by
  simp [octetAt]

/-- Zeros behind the last octet are what is read there anyway. -/
theorem octetAt_append_zeros (b : Bytes) (k n : Nat) : octetAt (b ++ zeros k) n = octetAt b n := by
  unfold octetAt zeros
  by_cases inside : n < b.length
  · rw [List.getElem?_append_left inside]
  · rw [List.getElem?_append_right (not_lt.1 inside), List.getElem?_eq_none (not_lt.1 inside)]
    rcases lt_or_ge (n - b.length) k with filled | past
    · simp [filled]
    · simp [past]

/-- Dropping octets moves the positions. -/
theorem octetAt_drop (b : Bytes) (start n : Nat) :
    octetAt (b.drop start) n = octetAt b (start + n) := by
  rw [octetAt, octetAt, List.getElem?_drop]

/-- Taking octets leaves those before the end of what is taken. -/
theorem octetAt_take {b : Bytes} {stop n : Nat} (h : n < stop) :
    octetAt (b.take stop) n = octetAt b n := by
  rw [octetAt, octetAt, List.getElem?_take_of_lt h]

/-- A number depends on its own octets only. -/
theorem numberIn_congr {a b : Bytes} {i j width : Nat}
    (h : ∀ k < width, octetAt a (i + k) = octetAt b (j + k)) :
    numberIn a i width = numberIn b j width := by
  induction width generalizing i j with
  | zero => rfl
  | succ width ih =>
    have first := h 0 (Nat.succ_pos _)
    have others : numberIn a (i + 1) width = numberIn b (j + 1) width := by
      refine ih fun k small => ?_
      have next := h (k + 1) (Nat.succ_lt_succ small)
      rwa [← Nat.add_assoc, ← Nat.add_assoc, Nat.add_right_comm i, Nat.add_right_comm j] at next
    rw [numberIn, numberIn, others]
    rw [Nat.add_zero, Nat.add_zero] at first
    rw [first]

/-- A number behind the first octet is one among the others. -/
theorem numberIn_cons_succ (x : UInt8) (b : Bytes) (offset width : Nat) :
    numberIn (x :: b) (offset + 1) width = numberIn b offset width := by
  refine numberIn_congr fun k _ => ?_
  rw [Nat.add_right_comm, octetAt_cons_succ]

/-- The octets from a position on, as far as there are any, read as the number there. -/
theorem toNatLE_take (b : Bytes) (width : Nat) : toNatLE (b.take width) = numberIn b 0 width := by
  induction width generalizing b with
  | zero => simp [toNatLE, numberIn]
  | succ width ih =>
    rcases b with _ | ⟨x, r⟩
    · have nothing : numberIn [] (0 + 1) width = numberIn [] 0 width :=
        numberIn_congr fun k _ => by simp [octetAt]
      rw [numberIn, nothing, ← ih]
      simp [octetAt, toNatLE]
    · rw [List.take_succ_cons, toNatLE, ih, numberIn, numberIn_cons_succ]
      simp [octetAt]

/-- The octets of a slice spell the number that stands there. -/
theorem toNatLE_slice (b : Bytes) (offset width : Nat) :
    toNatLE (b.slice offset (offset + width)) = numberIn b offset width := by
  rw [slice, List.drop_take, Nat.add_sub_cancel_left, toNatLE_take]
  refine numberIn_congr fun k _ => ?_
  rw [octetAt_drop, Nat.zero_add]

/-- A number of so many octets is less than that power of 256. -/
theorem numberIn_lt (b : Bytes) (offset width : Nat) : numberIn b offset width < 256 ^ width := by
  induction width generalizing offset with
  | zero => simp [numberIn]
  | succ width ih =>
    have octet : (octetAt b offset).toNat + 1 ≤ 256 := (octetAt b offset).toNat_lt
    have others : numberIn b (offset + 1) width + 1 ≤ 256 ^ width := ih (offset + 1)
    rw [numberIn, pow_succ]
    omega

/-- A number that was written is read at its position. -/
theorem numberIn_ofNatLE {a b c : Bytes} {offset width n : Nat} (before : a.length = offset)
    (here : b = ofNatLE width n) (small : n < 256 ^ width) :
    numberIn (a ++ (b ++ c)) offset width = n := by
  have size : offset + b.length = offset + width := by rw [here, length_ofNatLE]
  rw [← toNatLE_slice, slice_middle before size, here, toNatLE_ofNatLE_of_lt small]

/-- The number that octets are, written in as many octets, is those octets. -/
theorem ofNatLE_toNatLE {b : Bytes} {width : Nat} (h : b.length = width) :
    ofNatLE width (toNatLE b) = b := by
  subst h
  induction b with
  | nil => rfl
  | cons x r ih =>
    have small : x.toNat < 256 := x.toNat_lt
    have first : (toNatLE (x :: r)) % 256 = x.toNat := by
      rw [toNatLE]
      omega
    have others : (toNatLE (x :: r)) / 256 = toNatLE r := by
      rw [toNatLE]
      omega
    rw [List.length_cons, ofNatLE, first, others, ih, UInt8.ofNat_toNat]

/-! ## Regions -/

/-- A slice ends at the last octet at the latest. -/
theorem length_slice (b : Bytes) (start stop : Nat) :
    (b.slice start stop).length = min stop b.length - start := by
  rw [slice, List.length_drop, List.length_take]

/-- Two regions, one behind the other, are one region. -/
theorem slice_append_slice {b : Bytes} {i j k : Nat} (first : i ≤ j) (second : j ≤ k) :
    b.slice i j ++ b.slice j k = b.slice i k := by
  have front : b.slice i j = (b.slice i k).take (j - i) := by
    rw [slice, slice, List.take_drop, Nat.add_sub_cancel' first, List.take_take, min_eq_left second]
  have behind : b.slice j k = (b.slice i k).drop (j - i) := by
    rw [slice, slice, List.drop_drop, Nat.add_sub_cancel' first]
  rw [front, behind, List.take_append_drop]

/-- The octets of a region are those at its positions. -/
theorem slice_eq_map {b : Bytes} {start stop : Nat} (inside : stop ≤ b.length) :
    b.slice start stop = (List.range' start (stop - start)).map (octetAt b) := by
  have size : (b.slice start stop).length = stop - start := by rw [length_slice, min_eq_left inside]
  refine List.ext_getElem (by simp [size]) fun n here there => ?_
  rw [size] at here
  have known : start + n < b.length := by omega
  simp [slice, octetAt, known]

/-- A region depends on its own octets only. -/
theorem slice_congr {a b : Bytes} {start stop : Nat}
    (h : ∀ n, start ≤ n → n < stop → a[n]? = b[n]?) : a.slice start stop = b.slice start stop := by
  unfold slice
  refine List.ext_getElem? fun n => ?_
  rw [List.getElem?_drop, List.getElem?_drop, List.getElem?_take, List.getElem?_take]
  by_cases inside : start + n < stop
  · rw [if_pos inside, if_pos inside, h _ (Nat.le_add_right ..) inside]
  · rw [if_neg inside, if_neg inside]

end ImageSigning.Bytes
