import ImageSigning.Text.Percent
import ImageSigning.Proofs.Text.Utf8
import Mathlib.Data.List.SplitBy

/-!
# Octets through percent escapes

Octets are written with percent escapes by any text that escapes at least the reserved ones; which
others it escapes, and in which case of digits, is its own choice. Such a text is all of ASCII, so it is
one run, and what it stands for does not depend on the choice.

* **`decode_of_writes`** — a text that writes octets is decoded to them.
* **`decodeText_of_writes`** — a text that writes the octets of another text is decoded to that text.
-/

namespace ImageSigning

/-- A hexadecimal digit has the code of a decimal digit or of one of twelve letters. -/
theorem Hex.toNat_of_value? {c : Char} {n : Nat} (h : value? c = some n) :
    48 ≤ c.toNat ∧ c.toNat ≤ 57 ∨ 65 ≤ c.toNat ∧ c.toNat ≤ 70 ∨
      97 ≤ c.toNat ∧ c.toNat ≤ 102 := by
  rw [value?] at h
  split_ifs at h with decimal lower upper
  · exact .inl decimal
  · exact .inr (.inr lower)
  · exact .inr (.inl upper)

namespace Percent

/-! ## Texts that write octets -/

/-- Whether an octet may stand for itself: that of a letter, a digit, or one of `-`, `.`, `_` and
`~`. -/
def isUnreserved (x : UInt8) : Bool :=
  (48 ≤ x && x ≤ 57) || (65 ≤ x && x ≤ 90) || (97 ≤ x && x ≤ 122) ||
    x == 45 || x == 46 || x == 95 || x == 126

/-- The texts that write octets: each octet as itself where it is not reserved, or escaped. -/
inductive Writes : Bytes → List Char → Prop
  | nil : Writes [] []
  | plain {x : UInt8} {b : Bytes} {s : List Char} (unreserved : isUnreserved x = true)
      (rest : Writes b s) : Writes (x :: b) (Char.ofNat x.toNat :: s)
  | escaped {x : UInt8} {b : Bytes} {s : List Char} {high low : Char}
      (first : Hex.value? high = some (x.toNat / 16)) (second : Hex.value? low = some (x.toNat % 16))
      (rest : Writes b s) : Writes (x :: b) ('%' :: high :: low :: s)

/-- A character that a text of escapes may hold. -/
def IsEscape (c : Char) : Prop := c.toNat < 128 ∧ c ≠ ';' ∧ c ≠ '?'

/-- An unreserved character stands for itself, and it is no percent sign. -/
theorem isEscape_of_isUnreserved {x : UInt8} (h : isUnreserved x = true) :
    (x < 0x80 ∧ x ≠ 37) ∧ IsEscape (Char.ofNat x.toNat) := by
  have all : ∀ n < 256, isUnreserved (UInt8.ofNat n) = true →
      (UInt8.ofNat n < 0x80 ∧ UInt8.ofNat n ≠ 37) ∧
        (Char.ofNat n).toNat < 128 ∧ Char.ofNat n ≠ ';' ∧ Char.ofNat n ≠ '?' := by
    decide +kernel
  have := all x.toNat x.toNat_lt
  rw [UInt8.ofNat_toNat] at this
  exact this h

/-- A hexadecimal digit may stand in what is written with percent signs. -/
theorem isEscape_of_value? {c : Char} {n : Nat} (h : Hex.value? c = some n) : IsEscape c := by
  have code := Hex.toNat_of_value? h
  refine ⟨by omega, ?_, ?_⟩ <;>
  · rintro rfl
    simp at code

/-- Only characters that may stand there are written for octets. -/
theorem Writes.isEscape {b : Bytes} {s : List Char} (h : Writes b s) : ∀ c ∈ s, IsEscape c := by
  induction h with
  | nil => simp
  | plain unreserved rest ih =>
    exact List.forall_mem_cons.2 ⟨(isEscape_of_isUnreserved unreserved).2, ih⟩
  | escaped first second rest ih =>
    exact List.forall_mem_cons.2 ⟨⟨by decide, by decide, by decide⟩, List.forall_mem_cons.2
      ⟨isEscape_of_value? first, List.forall_mem_cons.2 ⟨isEscape_of_value? second, ih⟩⟩⟩

/-! ## Octets -/

/-- A digit as an octet is the digit again. -/
theorem value?_ofNat_toNat {c : Char} {n : Nat} (h : Hex.value? c = some n) :
    Hex.value? (Char.ofNat (UInt8.ofNat c.toNat).toNat) = some n := by
  have code := Hex.toNat_of_value? h
  have same : (UInt8.ofNat c.toNat).toNat = c.toNat := by
    rw [UInt8.toNat_ofNat']
    omega
  rw [same, Char.ofNat_toNat, h]

/-- Two digits are read as the octet that they are the halves of. -/
theorem octet?_eq_some {x : UInt8} {high low : Char}
    (first : Hex.value? high = some (x.toNat / 16))
    (second : Hex.value? low = some (x.toNat % 16)) :
    octet? (UInt8.ofNat high.toNat) (UInt8.ofNat low.toNat) = some x := by
  have whole : 16 * (x.toNat / 16) + x.toNat % 16 = x.toNat := Nat.div_add_mod _ _
  simp only [octet?, value?_ofNat_toNat first, value?_ofNat_toNat second, Option.bind_eq_bind,
    Option.bind_some, whole, UInt8.ofNat_toNat]

/-- An octet that is no percent sign is decoded as it is. -/
theorem decode_cons_of_ne {x : UInt8} (h : x ≠ 37) (r : Bytes) : decode (x :: r) = x :: decode r := by
  rw [decode]
  rintro _ _ _ rfl
  exact (h rfl).elim

/-- A text that writes octets is decoded to them. -/
theorem decode_of_writes {b : Bytes} {s : List Char} (h : Writes b s) :
    decode (s.flatMap String.utf8EncodeChar) = b := by
  induction h with
  | nil => rfl
  | @plain x b s unreserved rest ih =>
    obtain ⟨⟨ascii, noPercent⟩, -⟩ := isEscape_of_isUnreserved unreserved
    rw [List.flatMap_cons, Utf8.encodeChar_ofNat x.toNat ascii, UInt8.ofNat_toNat, List.singleton_append,
      decode_cons_of_ne noPercent, ih]
  | @escaped x b s high low first second rest ih =>
    have percent : String.utf8EncodeChar '%' = [37] := rfl
    rw [List.flatMap_cons, List.flatMap_cons, List.flatMap_cons, percent,
      Utf8.encodeChar_of_lt (isEscape_of_value? first).1,
      Utf8.encodeChar_of_lt (isEscape_of_value? second).1]
    simp only [List.singleton_append, decode, octet?_eq_some first second, ih]

/-- Whatever is written for octets decodes to them. -/
theorem decodeOctets_of_writes {b : Bytes} {s : List Char} (h : Writes b s) :
    decodeOctets (String.ofList s) = b := by
  rw [decodeOctets, Utf8.encode, String.toList_ofList, decode_of_writes h]

/-! ## Texts -/

/-- Characters of ASCII are one run. -/
theorem runs_of_ascii {s : List Char} (nonempty : s ≠ []) (ascii : ∀ c ∈ s, c.toNat < 128) :
    s.splitBy (fun a b => isAscii a == isAscii b) = [s] := by
  refine List.splitBy_of_isChain nonempty (List.Pairwise.isChain ?_)
  refine List.pairwise_of_forall_mem_list fun a first b second => ?_
  simp [isAscii, ascii a first, ascii b second]

/-- A text that writes the octets of another text is decoded to that text. -/
theorem decodeText_of_writes {value : String} {s : List Char} (h : Writes (Utf8.encode value) s) :
    decodeText (String.ofList s) = value := by
  have ascii : ∀ c ∈ s, c.toNat < 128 := fun c m => (h.isEscape c m).1
  have text : decodeRun s = value.toList := by
    have all : s.all isAscii = true := by simpa [isAscii] using ascii
    rw [decodeRun, if_pos all, Utf8.encode, String.toList_ofList, decode_of_writes h,
      Utf8.decodeLossy_encode]
  rw [decodeText, String.toList_ofList]
  rcases s.eq_nil_or_concat with rfl | nonempty
  · -- nothing is no run at all
    rw [← String.ofList_toList (s := value), ← text]
    rfl
  · rw [runs_of_ascii (by rintro rfl; simp at nonempty) ascii, List.flatMap_singleton, text,
      String.ofList_toList]

end Percent

end ImageSigning
