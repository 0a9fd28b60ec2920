import ImageSigning.Bytes

/-!
# Characters in two or four octets

Names may hold text in units of two octets, where a pair of surrogates stands for one character, or of
four octets, one for each character. A unit that is cut short, a lone surrogate and a number that is
no code point are refused.
-/

namespace ImageSigning.Text

/-- The character with a code point, if it is one. -/
def character? (n : Nat) : Option Char := if h : n.isValidChar then some ⟨n.toUInt32, by
  rw [UInt32.isValidChar, Nat.toUInt32_eq, UInt32.toNat_ofNat_of_lt']
  · exact h
  · simp only [Nat.isValidChar] at h
    simp only [UInt32.size]
    omega⟩ else none

/-- The units of two octets. -/
def units? : Bytes → Option (List Nat)
  | [] => some []
  | x :: y :: r => (units? r).map ((x.toNat * 256 + y.toNat) :: ·)
  | _ => none

/-- Joins pairs of surrogates. -/
def joinSurrogates? : List Nat → Option (List Char)
  | [] => some []
  | n :: r =>
    if 0xd800 ≤ n ∧ n < 0xdc00 then
      match r with
      | m :: s =>
        if 0xdc00 ≤ m ∧ m < 0xe000 then do
          let c ← character? (0x10000 + (n - 0xd800) * 1024 + (m - 0xdc00))
          (joinSurrogates? s).map (c :: ·)
        else none
      | [] => none
    else do
      let c ← character? n
      (joinSurrogates? r).map (c :: ·)

/-- The text in units of two octets. -/
def decodeWide? (b : Bytes) : Option String := do
  (← joinSurrogates? (← units? b)) |> fun cs => some (String.ofList cs)

/-- The characters in units of four octets. -/
def quads? : Bytes → Option (List Char)
  | [] => some []
  | w :: x :: y :: z :: r => do
    let c ← character? (Bytes.toNat [w, x, y, z])
    (quads? r).map (c :: ·)
  | _ => none

/-- The text in units of four octets. -/
def decodeWidest? (b : Bytes) : Option String := (quads? b).map String.ofList

end ImageSigning.Text
