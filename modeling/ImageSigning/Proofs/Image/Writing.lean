import ImageSigning.Image
import ImageSigning.Proofs.CertificateTable
import ImageSigning.Proofs.Image.Records
import ImageSigning.Proofs.Image.Regions
import ImageSigning.Proofs.Outcome

/-!
# What writing an image changes

A written image is the octets of the image with two fields filled in and the certificate table behind
them. Writing a field leaves every octet outside it alone, so the written file agrees with the image
wherever a digest looks.

* **`getElem?_patch`** — octets outside those that were replaced stay.
* **`toBytes_eq_ok`** — what writing does, field by field.
* **`IsWrittenAs`** — what a written file says, and where it agrees with the image.
* **`AgreeOutside.imageDigest_eq`** — octets that agree outside the two fields have the same digests.
* **`exists_toBytes`** — an image whose headers can be read is written if its size fits four octets.
-/

namespace ImageSigning.Image

open Bytes

/-! ## Replacing octets -/

section
variable {data octets : Bytes} {offset : Nat}

/-- Octets that are replaced inside stay as many. -/
theorem length_patch (h : offset + octets.length ≤ data.length) :
    (patch data offset octets).length = data.length := by
  simp [patch]
  omega

/-- Octets outside those that were replaced stay. -/
theorem getElem?_patch (h : offset + octets.length ≤ data.length) {n : Nat}
    (outside : n < offset ∨ offset + octets.length ≤ n) : (patch data offset octets)[n]? = data[n]? := by
  have front : (data.take offset).length = offset := by
    rw [List.length_take]
    omega
  unfold patch
  rcases outside with before | behind
  · rw [List.append_assoc, List.getElem?_append_left (by omega), List.getElem?_take_of_lt before]
  · have there : (data.take offset ++ octets).length = offset + octets.length := by
      rw [List.length_append, front]
    rw [List.getElem?_append_right (by omega), there, List.getElem?_drop,
      Nat.add_sub_cancel' behind]

end

/-- The octets of numbers of four octets each. -/
def numberOctets (numbers : List Nat) : Bytes := numbers.flatMap (ofNatLE 4)

/-- Numbers have four octets each. -/
@[simp] theorem length_numberOctets (numbers : List Nat) :
    (numberOctets numbers).length = 4 * numbers.length := by
  induction numbers with
  | nil => rfl
  | cons n numbers ih =>
    rw [numberOctets, List.flatMap_cons, List.length_append, length_ofNatLE, ← numberOctets, ih,
      List.length_cons, Nat.mul_succ, Nat.add_comm]

/-- An offset that is not negative is a position exactly if it stands inside and is not too large. -/
theorem position_eq_ok {size width offset n : Nat} : position size width offset = .ok n ↔
    n = offset ∧ offset + width ≤ size ∧ offset < 2 ^ 63 := by
  have natural : ¬ (offset : Int) < 0 := by omega
  unfold position offsetLimit
  dsimp only
  rw [if_neg natural]
  by_cases far : (offset : Int) < -0x8000000000000000 ∨ (0x8000000000000000 : Int) ≤ offset
  · rw [if_pos far]
    constructor
    · intro h
      cases h
    · rintro ⟨-, -, near⟩
      omega
  · rw [if_neg far]
    by_cases misplaced : (offset : Int) < 0 ∨ (size : Int) < offset + width
    · rw [if_pos misplaced]
      constructor
      · intro h
        cases h
      · rintro ⟨-, fits, -⟩
        omega
    · rw [if_neg misplaced, Int.toNat_natCast]
      constructor
      · intro h
        obtain rfl := Except.ok.inj h
        exact ⟨rfl, by omega, by omega⟩
      · rintro ⟨rfl, -, -⟩
        rfl

/-- Numbers are written exactly if each fits four octets and they fit in where they belong. -/
theorem patchNumbers_eq_ok {data out : Bytes} {offset : Nat} {numbers : List Nat} :
    patchNumbers data offset numbers = .ok out ↔ (∀ n ∈ numbers, n < 2 ^ 32) ∧
      offset + 4 * numbers.length ≤ data.length ∧ offset < 2 ^ 63 ∧
      out = patch data offset (numberOctets numbers) := by
  have fits : ¬ numbers.any (0x100000000 ≤ ·) = true ↔ ∀ n ∈ numbers, n < 2 ^ 32 := by simp
  unfold patchNumbers
  rw [Outcome.failUnless_eq_ok, fits, Outcome.bind_eq_ok]
  constructor
  · rintro ⟨small, n, found, h⟩
    obtain ⟨rfl, inside, near⟩ := position_eq_ok.1 found
    exact ⟨small, inside, near, (Outcome.pure_eq_ok.1 h).symm⟩
  · rintro ⟨small, inside, near, rfl⟩
    exact ⟨small, offset, position_eq_ok.2 ⟨rfl, inside, near⟩, rfl⟩

/-! ## Writing -/

/-- What the directory says of the table: its place and its size, or nothing. -/
def tablePlace (image : Image) : List Nat :=
  if image.certificateTable.isEmpty then [0, 0]
  else [image.data.length, image.certificateTable.length]

/-- The octets of the image and the table, with all but the checksum brought up to date. -/
def unsealed (image : Image) (entry : Nat) : Bytes :=
  patch image.data entry (numberOctets image.tablePlace) ++ image.certificateTable

/-- The table's place in the directory is two numbers. -/
theorem length_tablePlace (image : Image) : image.tablePlace.length = 2 := by
  unfold tablePlace
  split <;> rfl

section
variable {image : Image} {c e : Nat} {out : Bytes}

/-- What writing does: the directory entry first, then the checksum over what stands there then. -/
theorem toBytes_eq_ok (checksum : image.checksum = c) (entry : image.entry = e) :
    image.toBytes = .ok out ↔ (∀ n ∈ image.tablePlace, n < 2 ^ 32) ∧ e + 8 ≤ image.data.length ∧
      e < 2 ^ 63 ∧ ∃ sum, Checksum.checksum (image.unsealed e) = .ok sum ∧ sum < 2 ^ 32 ∧
        c + 4 ≤ (image.unsealed e).length ∧ c < 2 ^ 63 ∧
        out = patch (image.unsealed e) c (ofNatLE 4 sum) := by
  have one (sum : Nat) : numberOctets [sum] = ofNatLE 4 sum := List.append_nil _
  unfold toBytes
  rw [checksum, entry, Outcome.bind_eq_ok]
  simp only [Outcome.bind_eq_ok, Outcome.mapError_eq_ok]
  constructor
  · rintro ⟨_, written, sum, summed, sealed⟩
    obtain ⟨small, inside, near, rfl⟩ := patchNumbers_eq_ok.1 written
    obtain ⟨small', inside', near', rfl⟩ := patchNumbers_eq_ok.1 sealed
    change e + 4 * image.tablePlace.length ≤ _ at inside
    rw [length_tablePlace] at inside
    rw [one]
    exact ⟨small, inside, near, sum, summed, small' sum (by simp), inside', near', rfl⟩
  · rintro ⟨small, inside, near, sum, summed, small', inside', near', rfl⟩
    have two : 4 * image.tablePlace.length = 8 := by rw [length_tablePlace]
    refine ⟨_, patchNumbers_eq_ok.2 ⟨small, ?_, near, rfl⟩, sum, summed, ?_⟩
    · change e + 4 * image.tablePlace.length ≤ _
      omega
    · exact patchNumbers_eq_ok.2 ⟨by simpa using small', inside', near', by rw [one]; rfl⟩

/-- What a written file says: the image outside the two fields, the table behind it, and in the
directory where the table is. -/
structure IsWrittenAs (image : Image) (c e : Nat) (out : Bytes) : Prop where
  length : out.length = image.data.length + image.certificateTable.length
  outside : ∀ n < image.data.length, n < c ∨ c + 4 ≤ n → n < e ∨ e + 8 ≤ n →
    out[n]? = image.data[n]?
  table : out.drop image.data.length = image.certificateTable
  place : [numberIn out e 4, numberIn out (e + 4) 4] = image.tablePlace

/-- The directory says nothing of an empty table, and of any other that it follows the image. -/
theorem IsWrittenAs.place_cases (h : IsWrittenAs image c e out) :
    (image.certificateTable = [] ∧ numberIn out e 4 = 0 ∧ numberIn out (e + 4) 4 = 0) ∨
    (image.certificateTable ≠ [] ∧ numberIn out e 4 = image.data.length ∧
      numberIn out (e + 4) 4 = image.certificateTable.length) := by
  have place := h.place
  unfold tablePlace at place
  split at place
  · rename_i empty
    exact .inl ⟨List.isEmpty_iff.1 empty, by simpa using place⟩
  · rename_i filled
    exact .inr ⟨fun nothing => filled (List.isEmpty_iff.2 nothing), by simpa using place⟩

/-- Two numbers that were written are found where they stand. -/
theorem numberIn_numberOctets {a b : Bytes} {m n : Nat} (hm : m < 2 ^ 32) (hn : n < 2 ^ 32) :
    numberIn (a ++ numberOctets [m, n] ++ b) a.length 4 = m ∧
      numberIn (a ++ numberOctets [m, n] ++ b) (a.length + 4) 4 = n := by
  have shown : numberOctets [m, n] = ofNatLE 4 m ++ ofNatLE 4 n := by simp [numberOctets]
  rw [shown]
  constructor
  · rw [List.append_assoc, List.append_assoc]
    exact numberIn_ofNatLE rfl rfl hm
  · rw [← List.append_assoc, List.append_assoc _ (ofNatLE 4 n) b]
    exact numberIn_ofNatLE (by simp) rfl hn

/-- The directory entry of a file before its checksum is filled in says where the table is. -/
theorem place_unsealed (small : ∀ n ∈ image.tablePlace, n < 2 ^ 32)
    (inside : e + 8 ≤ image.data.length) :
    [numberIn (image.unsealed e) e 4, numberIn (image.unsealed e) (e + 4) 4]
      = image.tablePlace := by
  obtain ⟨m, n, shown⟩ : ∃ m n, image.tablePlace = [m, n] :=
    List.length_eq_two.1 image.length_tablePlace
  rw [shown] at small ⊢
  have front : (image.data.take e).length = e := by
    rw [List.length_take]
    omega
  have octets : image.unsealed e = image.data.take e ++ numberOctets [m, n]
      ++ (image.data.drop (e + (numberOctets [m, n]).length) ++ image.certificateTable) := by
    rw [unsealed, shown, patch, List.append_assoc]
  obtain ⟨first, second⟩ := @numberIn_numberOctets (image.data.take e)
    (image.data.drop (e + (numberOctets [m, n]).length) ++ image.certificateTable) m n
    (small m (by simp)) (small n (by simp))
  rw [front, ← octets] at first second
  rw [first, second]

/-- An image with its table is as long as the two together. -/
theorem length_unsealed (inside : e + 8 ≤ image.data.length) :
    (image.unsealed e).length = image.data.length + image.certificateTable.length := by
  have octets : (numberOctets image.tablePlace).length = 8 := by
    rw [length_numberOctets, length_tablePlace]
  rw [unsealed, List.length_append, length_patch (by omega)]

/-- A written file agrees with the image outside the two fields. -/
theorem isWrittenAs (checksum : image.checksum = c) (entry : image.entry = e) (apart : c + 4 ≤ e)
    (written : image.toBytes = .ok out) : IsWrittenAs image c e out := by
  obtain ⟨small, inside, -, sum, -, -, there, -, rfl⟩ := (toBytes_eq_ok checksum entry).1 written
  have octets : (numberOctets image.tablePlace).length = 8 := by
    rw [length_numberOctets, length_tablePlace]
  have four : (ofNatLE 4 sum).length = 4 := length_ofNatLE 4 sum
  have length := length_unsealed inside
  have kept {n : Nat} (outside : n < c ∨ c + 4 ≤ n) :
      (patch (image.unsealed e) c (ofNatLE 4 sum))[n]? = (image.unsealed e)[n]? :=
    getElem?_patch (by rw [four]; exact there) (by rw [four]; exact outside)
  have number {i : Nat} (behind : c + 4 ≤ i) :
      numberIn (patch (image.unsealed e) c (ofNatLE 4 sum)) i 4
        = numberIn (image.unsealed e) i 4 := by
    refine numberIn_congr fun k _ => ?_
    rw [octetAt, octetAt, kept (by omega)]
  refine ⟨?_, ?_, ?_, ?_⟩
  · rw [length_patch (by rw [four]; exact there), length]
  · intro n here outside outside'
    have patched : (patch image.data e (numberOctets image.tablePlace)).length
        = image.data.length := length_patch (by rw [octets]; exact inside)
    rw [kept outside, unsealed, List.getElem?_append_left (by rw [patched]; exact here),
      getElem?_patch (by rw [octets]; exact inside) (by rw [octets]; exact outside')]
  · have patched : (patch image.data e (numberOctets image.tablePlace)).length
        = image.data.length := length_patch (by rw [octets]; exact inside)
    refine List.ext_getElem? fun n => ?_
    rw [List.getElem?_drop, kept (by omega), unsealed, List.getElem?_append_right (by omega),
      patched, Nat.add_sub_cancel_left]
  · rw [number (by omega), number (by omega), place_unsealed small inside]

end

/-- Octets of the same number that are the same outside the two fields. -/
structure AgreeOutside (c e : Nat) (a b : Bytes) : Prop where
  length : a.length = b.length
  octets : ∀ n, n < c ∨ c + 4 ≤ n → n < e ∨ e + 8 ≤ n → a[n]? = b[n]?

namespace AgreeOutside

variable {c e : Nat} {a b d : Bytes}

/-- Octets agree with themselves. -/
theorem refl (c e : Nat) (a : Bytes) : AgreeOutside c e a a := ⟨rfl, fun _ _ _ => rfl⟩

/-- Octets that agree with the same agree. -/
theorem trans (h : AgreeOutside c e a b) (h' : AgreeOutside c e b d) : AgreeOutside c e a d :=
  ⟨h.length.trans h'.length, fun n out out' => (h.octets n out out').trans (h'.octets n out out')⟩

/-- Images that agree outside the two fields have the same digests. -/
theorem imageDigest_eq (h : AgreeOutside c e a b) (f : DigestAlgorithm) :
    imageDigest f a c e = imageDigest f b c e := by
  rw [imageDigest, imageDigest, signedContent_congr h.length fun n outside => ?_]
  obtain ⟨here, there⟩ := outside
  exact h.octets n (by omega) (by omega)

end AgreeOutside

/-- A written file begins with octets that agree with the image. -/
theorem IsWrittenAs.agreeOutside {image : Image} {c e : Nat} {out : Bytes}
    (h : IsWrittenAs image c e out) :
    AgreeOutside c e (out.take image.data.length) image.data := by
  have length : (out.take image.data.length).length = image.data.length := by
    rw [List.length_take, h.length]
    omega
  refine ⟨length, fun n outside outside' => ?_⟩
  rcases lt_or_ge n image.data.length with here | past
  · rw [List.getElem?_take_of_lt here, h.outside n here outside outside']
  · have past' : (out.take image.data.length).length ≤ n := by
      rw [length]
      exact past
    rw [List.getElem?_eq_none past', List.getElem?_eq_none past]

/-! ## Writing succeeds -/

section
variable {image : Image} {c e : Nat}

/-- An image that is short enough has a table whose place and size can be written. -/
theorem small_tablePlace {limit : Nat} (_ : 0 < limit)
    (small : image.data.length + image.certificateTable.length < limit) :
    ∀ n ∈ image.tablePlace, n < limit := by
  intro n m
  unfold tablePlace at m
  split at m <;> simp at m <;> omega

/-- An image whose headers can be read is written if its size, with what the sum of its octets may add to
it, fits four octets. -/
theorem exists_toBytes (checksum : image.checksum = c) (entry : image.entry = e) (apart : c + 4 ≤ e)
    (inside : e + 8 ≤ image.data.length)
    (small : image.data.length + image.certificateTable.length < 2 ^ 32 - 2 ^ 17) {h : Headers}
    (accepted : Headers.read (image.unsealed e) = .ok h) : ∃ out, image.toBytes = .ok out := by
  have length := length_unsealed inside
  have place := small_tablePlace (by decide) small
  have summed : Checksum.checksum (image.unsealed e)
      = .ok (Checksum.ofHeaders (image.unsealed e) h) := by
    rw [Checksum.checksum, accepted]
    rfl
  have fits := Headers.checksum_lt summed
  refine ⟨_, (toBytes_eq_ok checksum entry).2 ⟨fun n m => ?_, inside, ?_, _, summed, ?_, ?_, ?_, rfl⟩⟩
  · have here := place n m
    omega
  all_goals omega

end

end ImageSigning.Image
