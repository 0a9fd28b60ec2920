/-!
# Alignment

Certificate tables and the images that carry them are laid out in units of eight octets.
`alignUp` is the least multiple of eight that is not smaller, `alignTo` the same rule for any
alignment on unbounded integers, as a mask: the result keeps the bits of `size + a - 1` that are
not set in `a - 1`, so that an alignment that is no power of two is masked all the same.

* `alignUp_ge`, `alignUp_lt`, `eight_dvd_alignUp`: the three properties that determine `alignUp`.
-/

namespace ImageSigning

/-- The bits that two integers share, each integer taken as an unbounded two's complement word. -/
def sharedBits : Int → Int → Int
  | .ofNat m, .ofNat n => .ofNat (m &&& n)
  | .ofNat m, .negSucc n => .ofNat (m - (m &&& n))
  | .negSucc m, .ofNat n => .ofNat (n - (n &&& m))
  | .negSucc m, .negSucc n => .negSucc (m ||| n)

/-- `size` raised to the alignment by masking. -/
def alignTo (size alignment : Int) : Int :=
  sharedBits (size + alignment - 1) (-alignment)

/-- The unit in which signed images are laid out. -/
def alignmentUnit : Nat := 8

/-- The least multiple of eight that is not smaller than `n`. -/
def alignUp (n : Nat) : Nat := (n + 7) / 8 * 8

/-- How many octets are missing up to the next multiple of eight. -/
def paddingAfter (n : Nat) : Nat := alignUp n - n

/-- Rounding up does not make less. -/
theorem alignUp_ge (n : Nat) : n ≤ alignUp n := by unfold alignUp; omega

/-- Rounding up adds less than eight. -/
theorem alignUp_lt (n : Nat) : alignUp n < n + 8 := by unfold alignUp; omega

/-- What is rounded up is a multiple of eight. -/
theorem eight_dvd_alignUp (n : Nat) : 8 ∣ alignUp n := by unfold alignUp; omega

/-- There are fewer than eight octets of padding. -/
theorem paddingAfter_lt (n : Nat) : paddingAfter n < 8 := by unfold paddingAfter alignUp; omega

end ImageSigning
