import ImageSigning.Bytes

/-!
# Base64

Four letters of six bits stand for three octets. Where fewer octets are left, the missing letters are
written as padding, and the bits of the last letter that stand for no octet are zero; a text that
differs from this in any way is refused by `decode?`; `salvage?` reads the letters in any text.

* `decode?_encode`: every octet string is read back from its text.
-/

namespace ImageSigning.Base64

/-- The six bits that a letter stands for. -/
def value? (c : UInt8) : Option Nat :=
  if 65 ≤ c ∧ c ≤ 90 then some (c.toNat - 65)
  else if 97 ≤ c ∧ c ≤ 122 then some (c.toNat - 97 + 26)
  else if 48 ≤ c ∧ c ≤ 57 then some (c.toNat - 48 + 52)
  else if c = 43 then some 62
  else if c = 47 then some 63
  else none

/-- The letter for six bits. -/
def letter (n : Nat) : UInt8 :=
  if n < 26 then UInt8.ofNat (n + 65)
  else if n < 52 then UInt8.ofNat (n - 26 + 97)
  else if n < 62 then UInt8.ofNat (n - 52 + 48)
  else if n = 62 then 43 else 47

/-- The octets that a text stands for. -/
def decode? : Bytes → Option Bytes
  | [] => some []
  | [a, b, 61, 61] => do
    let n := (← value? a) * 64 + (← value? b)
    if n % 16 = 0 then some [UInt8.ofNat (n / 16)] else none
  | [a, b, c, 61] => do
    let n := ((← value? a) * 64 + (← value? b)) * 64 + (← value? c)
    if n % 4 = 0 then some [UInt8.ofNat (n / 1024), UInt8.ofNat (n / 4 % 256)] else none
  | a :: b :: c :: d :: r => do
    let n := (((← value? a) * 64 + (← value? b)) * 64 + (← value? c)) * 64 + (← value? d)
    let rest ← decode? r
    some (UInt8.ofNat (n / 65536) :: UInt8.ofNat (n / 256 % 256) :: UInt8.ofNat (n % 256) :: rest)
  | _ => none

/-- The text that stands for octets. -/
def encode : Bytes → Bytes
  | [] => []
  | [x] => [letter (x.toNat / 4), letter (x.toNat % 4 * 16), 61, 61]
  | [x, y] =>
    [letter (x.toNat / 4), letter (x.toNat % 4 * 16 + y.toNat / 16), letter (y.toNat % 16 * 4), 61]
  | x :: y :: z :: r =>
    letter (x.toNat / 4) :: letter (x.toNat % 4 * 16 + y.toNat / 16)
      :: letter (y.toNat % 16 * 4 + z.toNat / 64) :: letter (z.toNat % 64) :: encode r

/-- The octets that are complete in at most four letters. -/
def octetsOf (letters : List Nat) : Bytes :=
  match letters with
  | [a, b] => [UInt8.ofNat (a * 4 + b / 16)]
  | [a, b, c] => [UInt8.ofNat (a * 4 + b / 16), UInt8.ofNat (b % 16 * 16 + c / 4)]
  | [a, b, c, d] =>
    [UInt8.ofNat (a * 4 + b / 16), UInt8.ofNat (b % 16 * 16 + c / 4), UInt8.ofNat (c % 4 * 64 + d)]
  | _ => []

/-- The octets that the letters in a text stand for, after fewer than four letters and some padding.
What is neither letter nor padding is passed over, and so is what follows complete padding. -/
def salvageFrom : List Nat → Nat → Bytes → Option Bytes
  | letters, _, [] => if letters.isEmpty then some [] else none
  | letters, padding, 61 :: r =>
    if letters.length < 2 then salvageFrom letters padding r
    else if 4 ≤ letters.length + padding + 1 then some (octetsOf letters)
    else salvageFrom letters (padding + 1) r
  | letters, padding, x :: r =>
    match value? x with
    | none => salvageFrom letters padding r
    | some n =>
      if letters.length = 3 then (salvageFrom [] 0 r).map (octetsOf (letters ++ [n]) ++ ·)
      else salvageFrom (letters ++ [n]) 0 r

/-- The octets that the letters in a text stand for, whatever else is in it. -/
def salvage? (text : Bytes) : Option Bytes := salvageFrom [] 0 text

/-- A letter stands for the value that it was written for. -/
theorem value?_letter : ∀ n < 64, value? (letter n) = some n := by decide

/-- No letter is the sign that fills up. -/
theorem letter_ne_padding : ∀ n < 64, letter n ≠ 61 := by decide

/-- Every octet string is read back from its text. -/
theorem decode?_encode (b : Bytes) : decode? (encode b) = some b := by
  fun_induction encode b with
  | case1 => rfl
  | case2 x =>
    have := x.toNat_lt
    simp only [decode?, value?_letter (x.toNat / 4) (by omega),
      value?_letter (x.toNat % 4 * 16) (by omega), Option.bind_eq_bind, Option.bind_some]
    generalize hn : x.toNat / 4 * 64 + x.toNat % 4 * 16 = n
    have tail : n % 16 = 0 := by omega
    have whole : n / 16 = x.toNat := by omega
    simp [tail, whole]
  | case3 x y =>
    have := x.toNat_lt
    have := y.toNat_lt
    have c := letter_ne_padding (y.toNat % 16 * 4) (by omega)
    rw [decode?]
    · simp only [value?_letter (x.toNat / 4) (by omega),
        value?_letter (x.toNat % 4 * 16 + y.toNat / 16) (by omega),
        value?_letter (y.toNat % 16 * 4) (by omega), Option.bind_eq_bind, Option.bind_some]
      generalize hn : ((x.toNat / 4 * 64 + (x.toNat % 4 * 16 + y.toNat / 16)) * 64
        + y.toNat % 16 * 4) = n
      have tail : n % 4 = 0 := by omega
      have first : n / 1024 = x.toNat := by omega
      have second : n / 4 % 256 = y.toNat := by omega
      simp [tail, first, second]
    · intro h
      exact absurd h c
  | case4 x y z r ih =>
    have := x.toNat_lt
    have := y.toNat_lt
    have := z.toNat_lt
    have d := letter_ne_padding (z.toNat % 64) (by omega)
    rw [decode?]
    · simp only [value?_letter (x.toNat / 4) (by omega),
        value?_letter (x.toNat % 4 * 16 + y.toNat / 16) (by omega),
        value?_letter (y.toNat % 16 * 4 + z.toNat / 64) (by omega),
        value?_letter (z.toNat % 64) (by omega), ih, Option.bind_eq_bind, Option.bind_some]
      generalize hn : (((x.toNat / 4 * 64 + (x.toNat % 4 * 16 + y.toNat / 16)) * 64
        + (y.toNat % 16 * 4 + z.toNat / 64)) * 64 + z.toNat % 64) = n
      have first : n / 65536 = x.toNat := by omega
      have second : n / 256 % 256 = y.toNat := by omega
      have third : n % 256 = z.toNat := by omega
      simp [first, second, third]
    · intro _ h
      exact absurd h d
    · intro h
      exact absurd h d

end ImageSigning.Base64
