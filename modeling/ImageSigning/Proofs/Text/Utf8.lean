import ImageSigning.Text.Utf8
import Mathlib.Data.List.Basic

/-!
# Text through UTF-8

A character is written as an octet that leads and up to three that continue. The bounds that the
leading octet puts on the one behind it leave every character in, so the piece read back is the
character that was written and nothing of what follows it.

* **`piece_encodeChar`** — the first piece of a written character is that character.
* **`decode?_encode`**, **`decodeLossy_encode`** — decoding undoes encoding.
-/

namespace ImageSigning.Utf8

/-! ## Leading and continuing octets -/

/-- Of two octets, the second is not bounded; the first holds two at least, or one would do. -/
theorem lead?_two : ∀ n < 32, n < 2 ∨ lead? (UInt8.ofNat (n + 192)) = some (1, 0x80, 0xbf, n) := by
  decide

/-- Of three octets, the second is bounded where the first says least or is next to the surrogates. -/
theorem lead?_three : ∀ n < 16, lead? (UInt8.ofNat (n + 224)) =
    some (2, if n = 0 then 0xa0 else 0x80, if n = 13 then 0x9f else 0xbf, n) := by
  decide

/-- Of four octets, the second is bounded where the first says least or most. -/
theorem lead?_four : ∀ n < 5, lead? (UInt8.ofNat (n + 240)) =
    some (3, if n = 0 then 0x90 else 0x80, if n = 4 then 0x8f else 0xbf, n) := by
  decide

/-- An octet that leads others is not of ASCII. -/
theorem not_ascii_of_lead? {x : UInt8} {l : Nat × UInt8 × UInt8 × Nat} (h : lead? x = some l) :
    ¬ x < 0x80 := by
  have none_below : ∀ n < 128, lead? (UInt8.ofNat n) = none := by decide
  intro small
  have := none_below x.toNat small
  rw [UInt8.ofNat_toNat, h] at this
  cases this

/-- An octet that continues a sequence holds six bits. -/
theorem toNat_continuing {m : Nat} (h : m < 64) : (UInt8.ofNat (m + 128)).toNat = m + 128 := by
  rw [UInt8.toNat_ofNat']
  omega

/-- The octets from 128 on are continuations, as far as six bits reach. -/
theorem isContinuation_continuing :
    ∀ m < 64, isContinuation (UInt8.ofNat (m + 128)) = true := by
  decide

/-- A continuation adds its six bits. -/
theorem complete_continuing {m : Nat} (h : m < 64) (n bits : Nat) (r : Bytes) :
    complete (n + 1) bits (UInt8.ofNat (m + 128) :: r) = complete n (bits * 64 + m) r := by
  rw [complete, isContinuation_continuing m h, toNat_continuing h, Nat.add_sub_cancel]
  rfl

/-- A leading octet and one within its bounds begin a piece. -/
theorem piece_of_lead? {x low high : UInt8} {n bits m : Nat}
    (lead : lead? x = some (n, low, high, bits)) (small : m < 64)
    (least : low.toNat ≤ m + 128) (most : m + 128 ≤ high.toNat) (r : Bytes) :
    piece x (UInt8.ofNat (m + 128) :: r) =
      ((complete (n - 1) (bits * 64 + m) r).1.map Char.ofNat,
        (complete (n - 1) (bits * 64 + m) r).2) := by
  have bounded : low ≤ UInt8.ofNat (m + 128) ∧ UInt8.ofNat (m + 128) ≤ high := by
    rw [UInt8.le_iff_toNat_le, UInt8.le_iff_toNat_le, toNat_continuing small]
    exact ⟨least, most⟩
  simp only [piece, if_neg (not_ascii_of_lead? lead), lead, bounded, decide_true, Bool.and_self,
    if_true, toNat_continuing small, Nat.add_sub_cancel]

/-! ## Characters -/

/-- A character is given back by its number. -/
theorem ofNat_eq {c : Char} {v : Nat} (h : c.val.toNat = v) : Char.ofNat v = c := by
  rw [← h]
  exact Char.ofNat_toNat c

/-- The first piece of a written character is that character. -/
theorem piece_encodeChar (c : Char) (r : Bytes) :
    ∃ x s, String.utf8EncodeChar c ++ r = x :: s ∧ piece x s = (some c, r) := by
  have valid : c.val.toNat < 55296 ∨ 57343 < c.val.toNat ∧ c.val.toNat < 1114112 := c.valid
  unfold String.utf8EncodeChar
  generalize scalar : c.val.toNat = v at valid
  dsimp only
  split_ifs with one two three
  · -- one octet
    have small : UInt8.ofNat v < 0x80 := by
      rw [UInt8.lt_iff_toNat_lt, UInt8.toNat_ofNat']
      exact Nat.lt_of_le_of_lt (Nat.mod_le _ _) (Nat.lt_succ_of_le one)
    have same : (UInt8.ofNat v).toNat = v := by
      rw [UInt8.toNat_ofNat']
      omega
    refine ⟨UInt8.ofNat v, r, rfl, ?_⟩
    simp only [piece, if_pos small, same, ofNat_eq scalar]
  · -- two octets
    have lead := (lead?_two (v / 64 % 32) (by omega)).resolve_left (by omega)
    have whole : v / 64 % 32 * 64 + v % 64 = v := by omega
    refine ⟨_, _, rfl, ?_⟩
    have first := piece_of_lead? (m := v % 64) lead (by omega)
      (show 128 ≤ _ by omega) (show _ ≤ 191 by omega) r
    simpa [complete, whole, ofNat_eq scalar] using first
  · -- three octets; the bounds leave out what is shorter and the surrogates
    have lead := lead?_three (v / 4096 % 16) (by omega)
    have whole : (v / 4096 % 16 * 64 + v / 64 % 64) * 64 + v % 64 = v := by omega
    refine ⟨_, _, rfl, ?_⟩
    have first := piece_of_lead? (m := v / 64 % 64) lead (by omega)
      (by split_ifs with low <;> [show 160 ≤ _; show 128 ≤ _] <;> omega)
      (by split_ifs with high <;> [show _ ≤ 159; show _ ≤ 191] <;> omega)
      (UInt8.ofNat (v % 64 + 128) :: r)
    rw [complete_continuing (by omega)] at first
    simpa [complete, whole, ofNat_eq scalar] using first
  · -- four octets; the bounds leave out what is shorter and what is beyond the last code point
    have lead := lead?_four (v / 262144 % 8) (by omega)
    have whole : ((v / 262144 % 8 * 64 + v / 4096 % 64) * 64 + v / 64 % 64) * 64 + v % 64 = v := by
      omega
    refine ⟨_, _, rfl, ?_⟩
    have first := piece_of_lead? (m := v / 4096 % 64) lead (by omega)
      (by split_ifs with low <;> [show 144 ≤ _; show 128 ≤ _] <;> omega)
      (by split_ifs with high <;> [show _ ≤ 143; show _ ≤ 191] <;> omega)
      (UInt8.ofNat (v / 64 % 64 + 128) :: UInt8.ofNat (v % 64 + 128) :: r)
    rw [complete_continuing (by omega), complete_continuing (by omega)] at first
    simpa [complete, whole, ofNat_eq scalar] using first

/-! ## Texts -/

/-- Encoded characters are taken apart into themselves, if there is fuel for each octet. -/
theorem pieces_encodeChars (cs : List Char) (fuel : Nat)
    (enough : (cs.flatMap String.utf8EncodeChar).length ≤ fuel) :
    pieces fuel (cs.flatMap String.utf8EncodeChar) = cs.map some := by
  induction cs generalizing fuel with
  | nil => cases fuel <;> rfl
  | cons c cs ih =>
    obtain ⟨x, s, written, first⟩ := piece_encodeChar c (cs.flatMap String.utf8EncodeChar)
    have shorter : (cs.flatMap String.utf8EncodeChar).length < (x :: s).length := by
      have := String.length_utf8EncodeChar c
      have := c.utf8Size_pos
      rw [← written, List.length_append]
      omega
    rw [List.flatMap_cons, written] at enough ⊢
    obtain ⟨fuel, rfl⟩ := Nat.exists_eq_succ_of_ne_zero (n := fuel) (by
      intro none
      simp [none] at enough)
    rw [pieces, first]
    exact congrArg _ (ih fuel (by omega))

/-- An encoded text is taken apart into its characters. -/
theorem pieces_encode (s : String) : pieces (encode s).length (encode s) = s.toList.map some :=
  pieces_encodeChars s.toList _ (Nat.le_refl _)

/-- Decoding undoes encoding. -/
theorem decode?_encode (s : String) : decode? (encode s) = some s := by
  have all (cs : List Char) : cs.mapM (id ∘ some) = some (cs.map id) := List.mapM_pure
  rw [decode?, pieces_encode, List.mapM_map, all, List.map_id, Option.map_some, String.ofList_toList]

/-- Decoding with replacements undoes encoding. -/
theorem decodeLossy_encode (s : String) : decodeLossy (encode s) = s := by
  simp [decodeLossy, pieces_encode, Function.comp_def]

/-! ## Octets of ASCII as text -/

/-- The characters that octets of ASCII stand for. -/
def characters (b : Bytes) : List Char := b.map fun x => Char.ofNat x.toNat

/-- A character of ASCII is encoded in the octet of its number. -/
theorem encodeChar_of_lt {c : Char} (h : c.toNat < 128) :
    String.utf8EncodeChar c = [UInt8.ofNat c.toNat] :=
  if_pos (Nat.le_of_lt_succ h)

/-- A number below 128 is encoded in the octet that it is. -/
theorem encodeChar_ofNat :
    ∀ n < 128, String.utf8EncodeChar (Char.ofNat n) = [UInt8.ofNat n] := by
  decide

/-- Octets of ASCII are the encoding of the text that they spell. -/
theorem encode_characters {b : Bytes} (ascii : ∀ x ∈ b, x < 0x80) :
    encode (String.ofList (characters b)) = b := by
  rw [encode, String.toList_ofList]
  induction b with
  | nil => rfl
  | cons x r ih =>
    have small : x.toNat < 128 := ascii x (by simp)
    rw [characters, List.map_cons, List.flatMap_cons, encodeChar_ofNat _ small,
      UInt8.ofNat_toNat]
    exact congrArg _ (ih fun y m => ascii y (by simp [m]))

/-- Octets of ASCII decode to the text that they spell. -/
theorem decode?_of_ascii {b : Bytes} (ascii : ∀ x ∈ b, x < 0x80) :
    decode? b = some (String.ofList (characters b)) :=
  calc decode? b = decode? (encode (String.ofList (characters b))) := by
        rw [encode_characters ascii]
    _ = some (String.ofList (characters b)) := decode?_encode _

/-! ## How long a text is -/

/-- A character of ASCII is one octet. -/
theorem length_encodeChar_of_ascii {c : Char} (h : ∀ x ∈ String.utf8EncodeChar c, x < 0x80) :
    (String.utf8EncodeChar c).length = 1 := by
  have high {n : Nat} (big : 128 ≤ n) (small : n < 256) : ¬ UInt8.ofNat n < 0x80 := by
    rw [UInt8.lt_iff_toNat_lt, UInt8.toNat_ofNat', Nat.mod_eq_of_lt small]
    exact Nat.not_lt.2 big
  revert h
  unfold String.utf8EncodeChar
  dsimp only
  split_ifs with one two three
  · intro
    rfl
  · intro h
    exact absurd (h _ List.mem_cons_self) (high (by omega) (by omega))
  · intro h
    exact absurd (h _ List.mem_cons_self) (high (by omega) (by omega))
  · intro h
    exact absurd (h _ List.mem_cons_self) (high (by omega) (by omega))

/-- A text whose encoding is of ASCII has as many characters as octets. -/
theorem length_encode_of_ascii {cs : List Char}
    (h : ∀ x ∈ cs.flatMap String.utf8EncodeChar, x < 0x80) :
    (cs.flatMap String.utf8EncodeChar).length = cs.length := by
  induction cs with
  | nil => rfl
  | cons c cs ih =>
    rw [List.flatMap_cons] at h ⊢
    rw [List.length_append, List.length_cons,
      length_encodeChar_of_ascii fun x m => h x (List.mem_append_left _ m),
      ih fun x m => h x (List.mem_append_right _ m), Nat.add_comm]

/-- Octets are taken apart into no more pieces than there is fuel. -/
theorem length_pieces_le (fuel : Nat) (b : Bytes) : (pieces fuel b).length ≤ fuel := by
  fun_induction pieces fuel b with
  | case1 fuel x r c rest _ ih => simpa using ih
  | case2 => simp

/-- A text has at most as many characters as octets. -/
theorem length_le_of_decode? {b : Bytes} {s : String} (h : decode? b = some s) :
    s.toList.length ≤ b.length := by
  have same {l : List (Option Char)} {cs : List Char} (h : l.mapM id = some cs) :
      cs.length = l.length := by
    induction l generalizing cs with
    | nil =>
      obtain rfl := Option.some.inj h
      rfl
    | cons o l ih =>
      rw [List.mapM_cons] at h
      simp only [Option.bind_eq_bind, Option.bind_eq_some_iff] at h
      obtain ⟨c, -, cs, rest, h⟩ := h
      obtain rfl := Option.some.inj h
      rw [List.length_cons, List.length_cons, ih rest]
  rw [decode?, Option.map_eq_some_iff] at h
  obtain ⟨cs, read, rfl⟩ := h
  rw [String.toList_ofList, same read]
  exact length_pieces_le _ _

end ImageSigning.Utf8
