import ImageSigning.Bytes

/-!
# UTF-8

Text and octets meet in file contents, key references and tool messages. `encode` writes each
character in one to four octets; `decode?` accepts exactly the well-formed sequences; `decodeLossy`
accepts everything and puts one replacement character for each longest piece that begins a
well-formed sequence without completing it, and for each octet that begins none.
-/

namespace ImageSigning.Utf8

/-- The octets of a text. -/
def encode (s : String) : Bytes := s.toList.flatMap String.utf8EncodeChar

/-- Whether an octet continues a sequence. -/
def isContinuation (x : UInt8) : Bool := 0x80 ≤ x && x ≤ 0xbf

/-- For an octet that begins a longer sequence: how many octets follow, the bounds of the first of
them, and the bits that it contributes. The bounds leave out overlong forms, surrogates and numbers
beyond the last code point. -/
def lead? (x : UInt8) : Option (Nat × UInt8 × UInt8 × Nat) :=
  if 0xc2 ≤ x && x ≤ 0xdf then some (1, 0x80, 0xbf, x.toNat - 0xc0)
  else if x = 0xe0 then some (2, 0xa0, 0xbf, 0)
  else if x = 0xed then some (2, 0x80, 0x9f, 13)
  else if 0xe1 ≤ x && x ≤ 0xef then some (2, 0x80, 0xbf, x.toNat - 0xe0)
  else if x = 0xf0 then some (3, 0x90, 0xbf, 0)
  else if x = 0xf4 then some (3, 0x80, 0x8f, 4)
  else if 0xf1 ≤ x && x ≤ 0xf3 then some (3, 0x80, 0xbf, x.toNat - 0xf0)
  else none

/-- The code point completed by `n` continuation octets, if they are there, and what remains. -/
def complete : Nat → Nat → Bytes → Option Nat × Bytes
  | 0, bits, r => (some bits, r)
  | n + 1, bits, x :: r =>
    if isContinuation x then complete n (bits * 64 + (x.toNat - 0x80)) r else (none, x :: r)
  | _ + 1, _, [] => (none, [])

/-- The first piece of a sequence that begins with `x`: its character if it is well formed, and what
remains after it. -/
def piece (x : UInt8) (r : Bytes) : Option Char × Bytes :=
  if x < 0x80 then (some (Char.ofNat x.toNat), r)
  else match lead? x, r with
    | some (n, low, high, bits), y :: rest =>
      if low ≤ y && y ≤ high then
        let (point, left) := complete (n - 1) (bits * 64 + (y.toNat - 0x80)) rest
        (point.map Char.ofNat, left)
      else (none, y :: rest)
    | _, _ => (none, r)

/-- The pieces of the octets; at most `fuel` of them. -/
def pieces : Nat → Bytes → List (Option Char)
  | fuel + 1, x :: r =>
    let (c, rest) := piece x r
    c :: pieces fuel rest
  | _, _ => []

/-- The text of well-formed octets. -/
def decode? (b : Bytes) : Option String :=
  ((pieces b.length b).mapM id).map String.ofList

/-- The text of any octets, malformed pieces replaced. -/
def decodeLossy (b : Bytes) : String :=
  String.ofList ((pieces b.length b).map fun c => c.getD '\ufffd')

end ImageSigning.Utf8
