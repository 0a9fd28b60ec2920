import ImageSigning.Bytes

/-!
# A hash of any length

A sponge over 25 lanes of 64 bits that takes in 136 octets at a time and then gives out as many octets
as are asked for. The lanes form a square of rows and columns; lane `x + 5 * y` stands in column `x`
of row `y`.
-/

namespace ImageSigning.Hash.Shake

/-- The lanes of the sponge. -/
abbrev Lanes := Array UInt64

/-- Octets taken in at a time. -/
def rate : Nat := 136

/-- The constants of the rounds. -/
def roundConstants : List UInt64 :=
  [0x0000000000000001, 0x0000000000008082, 0x800000000000808a, 0x8000000080008000,
    0x000000000000808b, 0x0000000080000001, 0x8000000080008081, 0x8000000000008009,
    0x000000000000008a, 0x0000000000000088, 0x0000000080008009, 0x000000008000000a,
    0x000000008000808b, 0x800000000000008b, 0x8000000000008089, 0x8000000000008003,
    0x8000000000008002, 0x8000000000000080, 0x000000000000800a, 0x800000008000000a,
    0x8000000080008081, 0x8000000000008080, 0x0000000080000001, 0x8000000080008008]

/-- By how much each lane is turned. -/
def rotations : Array UInt64 :=
  #[0, 1, 62, 28, 27, 36, 44, 6, 55, 20, 3, 10, 43, 25, 39, 41, 45, 15, 21, 8, 18, 2, 61, 56, 14]

/-- A lane turned left. -/
def turn (v n : UInt64) : UInt64 := if n = 0 then v else (v <<< n) ||| (v >>> (64 - n))

/-- The lane in column `x` of row `y`, both taken around the square. -/
def lane (s : Lanes) (x y : Nat) : UInt64 := s.getD (x % 5 + 5 * (y % 5)) 0

/-- Lanes given by column and row. -/
def build (f : Nat → Nat → UInt64) : Lanes := Array.ofFn fun i : Fin 25 => f (i.val % 5) (i.val / 5)

/-- The lanes of one column combined. -/
def column (s : Lanes) (x : Nat) : UInt64 :=
  lane s x 0 ^^^ lane s x 1 ^^^ lane s x 2 ^^^ lane s x 3 ^^^ lane s x 4

/-- One round: columns are mixed in, lanes are turned and moved, rows are mixed, and the constant is
added to the first lane. -/
def round (s : Lanes) (constant : UInt64) : Lanes :=
  let columns : Array UInt64 := Array.ofFn fun i : Fin 5 => column s i.val
  let parity := fun x : Nat => columns.getD (x % 5) 0
  let mixed := build fun x y => lane s x y ^^^ parity (x + 4) ^^^ turn (parity (x + 1)) 1
  let moved := build fun x y =>
    turn (lane mixed (x + 3 * y) x) (rotations.getD ((x + 3 * y) % 5 + 5 * (x % 5)) 0)
  build fun x y =>
    let v := lane moved x y ^^^ (~~~ lane moved (x + 1) y &&& lane moved (x + 2) y)
    if x = 0 ∧ y = 0 then v ^^^ constant else v

/-- All rounds. -/
def permute (s : Lanes) : Lanes := roundConstants.foldl round s

/-- Takes in one block. -/
def absorb (s : Lanes) (block : Bytes) : Lanes :=
  permute <| build fun x y =>
    let i := 8 * (x + 5 * y)
    lane s x y ^^^ UInt64.ofNat (Bytes.toNatLE (Bytes.slice block i (i + 8)))

/-- Cuts octets into `n` blocks. -/
def blocks : Nat → Bytes → List Bytes
  | 0, _ => []
  | n + 1, b => b.take rate :: blocks n (b.drop rate)

/-- The message filled up to whole blocks. -/
def pad (message : Bytes) : Bytes :=
  let room := rate - message.length % rate
  if room = 1 then message ++ [0x9f]
  else message ++ 0x1f :: (Bytes.zeros (room - 2) ++ [0x80])

/-- The octets of the lanes that are given out. -/
def output (s : Lanes) : Bytes :=
  (s.toList.flatMap fun v => Bytes.ofNatLE 8 v.toNat).take rate

/-- Gives out `n` blocks. -/
def squeeze : Nat → Lanes → Bytes
  | 0, _ => []
  | n + 1, s => output s ++ squeeze n (permute s)

/-- `size` octets of the hash of a message. -/
def run (size : Nat) (message : Bytes) : Bytes :=
  let padded := pad message
  let s := (blocks (padded.length / rate) padded).foldl absorb (build fun _ _ => 0)
  (squeeze (size / rate + 1) s).take size

end ImageSigning.Hash.Shake
