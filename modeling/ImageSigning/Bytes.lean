/-!
# Octet strings

Every artefact of image signing (an image, a signature, a certificate, a key file) is a finite
sequence of octets. `Bytes` is that sequence as a list, so that cutting, joining and comparing are
the list operations and their library lemmas apply unchanged.

The numbers inside those artefacts are written in one of two orders: most significant octet first
(`toNat`, `ofNat`; the ASN.1 side) or least significant octet first (`toNatLE`, `ofNatLE`; the
image side). `minimal` is the shortest big-endian writing, which has no octet for zero.

* `length_ofNat`, `length_ofNatLE`: a fixed width is kept whatever the number.
* `toNatLE_ofNatLE`: reading a fixed width back gives the number modulo that width.
-/

namespace ImageSigning

/-- A finite sequence of octets. -/
abbrev Bytes := List UInt8

namespace Bytes

/-- `n` zero octets. -/
def zeros (n : Nat) : Bytes := List.replicate n 0

/-- The octets from position `start` up to, not including, position `stop`; positions past the end
stand for the end. -/
def slice (b : Bytes) (start stop : Nat) : Bytes := (b.take stop).drop start

/-- The number written most significant octet first. -/
def toNat (b : Bytes) : Nat := b.foldl (fun n x => n * 256 + x.toNat) 0

/-- The number written least significant octet first. -/
def toNatLE : Bytes → Nat
  | [] => 0
  | x :: r => x.toNat + 256 * toNatLE r

/-- `n` in exactly `width` octets, least significant first; what does not fit is dropped. -/
def ofNatLE : Nat → Nat → Bytes
  | 0, _ => []
  | width + 1, n => UInt8.ofNat (n % 256) :: ofNatLE width (n / 256)

/-- `n` in exactly `width` octets, most significant first; what does not fit is dropped. -/
def ofNat (width n : Nat) : Bytes := (ofNatLE width n).reverse

/-- How many octets the shortest writing of `n` takes; none for zero. -/
def octetCount (n : Nat) : Nat := if n = 0 then 0 else n.log2 / 8 + 1

/-- The shortest writing of `n`, most significant octet first. -/
def minimal (n : Nat) : Bytes := ofNat (octetCount n) n

/-- The octets of a text given by code points below 256, one octet each. -/
def ofAscii (s : String) : Bytes := s.toList.map fun c => UInt8.ofNat c.toNat

/-- Whether `part` occurs in `b` as a run of neighbouring octets. -/
def containsRun (part : Bytes) : Bytes → Bool
  | [] => part.isEmpty
  | x :: r => part.isPrefixOf (x :: r) || containsRun part r

/-- There are as many zeros as asked for. -/
@[simp] theorem length_zeros (n : Nat) : (zeros n).length = n := by simp [zeros]

/-- A number takes as many octets as it is given, least significant first. -/
@[simp] theorem length_ofNatLE (width n : Nat) : (ofNatLE width n).length = width := by
  induction width generalizing n with
  | zero => rfl
  | succ width ih => simp [ofNatLE, ih]

/-- A number takes as many octets as it is given, most significant first. -/
@[simp] theorem length_ofNat (width n : Nat) : (ofNat width n).length = width := by
  simp [ofNat]

/-- Reading a fixed width back gives the number modulo what the width holds. -/
theorem toNatLE_ofNatLE (width n : Nat) : toNatLE (ofNatLE width n) = n % Nat.pow 256 width := by
  induction width generalizing n with
  | zero => simp [ofNatLE, toNatLE, Nat.mod_one]
  | succ width ih =>
    have octet : (UInt8.ofNat (n % 256)).toNat = n % 256 := by
      simp [UInt8.toNat_ofNat']
    rw [ofNatLE, toNatLE, ih, octet, Nat.pow_eq, Nat.pow_eq, Nat.pow_succ,
      Nat.mul_comm _ 256, Nat.mod_mul]

end Bytes

end ImageSigning
