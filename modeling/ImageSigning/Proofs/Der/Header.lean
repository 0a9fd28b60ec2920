import ImageSigning.Proofs.Signature.Extent

/-!
# What a header says

A header is an identifier octet and a length: one octet below 128, or an octet that counts the octets of
a number behind it. `IsHeader` is that rule by itself; the number may have more octets than it needs.
Octets either begin with a header and as much content as it declares, or lack an extent in one of four
ways (`LacksExtent`), and never both. The extent is therefore exact in either direction, and since it is
found by asking for single octets that are there (`extentByPosition?`), nothing behind the octets plays a
part in it.

* **`IsHeader.long_of_lt`**, **`IsHeader.short_of_lt`** — every length is written in every number of
  octets that holds it.
* **`elementLength?_eq_some_iff`** — there is an extent exactly behind a header with its content.
* **`elementLength?_eq_none_iff`** — there is none exactly where something is missing or indefinite.
* **`extentByPosition?_eq`** — no octet is asked for that is not there.
* **`extent_exact`** — all of it, and what stripping the header leaves.
-/

namespace ImageSigning.Der

/-! ## Headers -/

/-- Octets that are a header, and the length of the content that they declare. -/
inductive IsHeader : Bytes → Nat → Prop
  /-- A length in one octet. -/
  | short (identifier : UInt8) {length : UInt8} (small : length < 128) :
    IsHeader [identifier, length] length.toNat
  /-- A length in as many octets as the one in front of them counts. -/
  | long (identifier : UInt8) {count : UInt8} {digits : Bytes} (large : 128 < count)
    (counted : digits.length = count.toNat - 128) :
    IsHeader (identifier :: count :: digits) digits.toNat

variable {b header content : Bytes} {n : Nat}

/-- A header has an identifier and a length, so at least two octets. -/
theorem IsHeader.two_le_length (h : IsHeader header n) : 2 ≤ header.length := by
  cases h with
  | short identifier small => exact le_rfl
  | long identifier large counted =>
    rw [List.length_cons, List.length_cons]
    omega

/-- A length below 128 is written in one octet. -/
theorem IsHeader.short_of_lt (identifier : UInt8) (h : n < 128) :
    IsHeader [identifier, UInt8.ofNat n] n := by
  have value : (UInt8.ofNat n).toNat = n := UInt8.toNat_ofNat_of_lt' (by change n < 256; omega)
  have small : UInt8.ofNat n < 128 := UInt8.lt_iff_toNat_lt.2 (by rw [value]; exact h)
  have header := IsHeader.short identifier small
  rwa [value] at header

/-- A length is written in every number of octets that holds it, up to the largest count. -/
theorem IsHeader.long_of_lt (identifier : UInt8) {k : Nat} (positive : 0 < k) (few : k ≤ 127)
    (h : n < 256 ^ k) :
    IsHeader (identifier :: UInt8.ofNat (128 + k) :: Bytes.ofNat k n) n := by
  have value : (UInt8.ofNat (128 + k)).toNat = 128 + k :=
    UInt8.toNat_ofNat_of_lt' (by change 128 + k < 256; omega)
  have large : (128 : UInt8) < UInt8.ofNat (128 + k) :=
    UInt8.lt_iff_toNat_lt.2 (by rw [value]; change 128 < 128 + k; omega)
  have counted : (Bytes.ofNat k n).length = (UInt8.ofNat (128 + k)).toNat - 128 := by
    rw [Bytes.length_ofNat, value]
    omega
  have header := IsHeader.long identifier large counted
  rwa [Bytes.toNat_ofNat, Nat.mod_eq_of_lt h] at header

/-! ## What is read of a header -/

/-- The bits of a count: the mark of the long form, and how many octets follow. -/
theorem count_bits {count : UInt8} (large : 128 < count) :
    count &&& 0x80 ≠ 0 ∧ (count &&& 0x7f).toNat = count.toNat - 128 := by
  obtain ⟨low, value⟩ := octet_bits count
  have octet : count.toNat < 256 := count.toNat_lt
  have above : 128 < count.toNat := UInt8.lt_iff_toNat_lt.1 large
  refine ⟨fun clear => ?_, by rw [value]; omega⟩
  have below : count.toNat < 128 := UInt8.lt_iff_toNat_lt.1 (low.1 clear)
  omega

/-- A header declares itself and its content. -/
theorem IsHeader.declaredLength? (h : IsHeader header n) (r : Bytes) :
    declaredLength? (header ++ r) = some (header.length + n) := by
  cases h with
  | short identifier small =>
    have clear := (octet_bits _).1.2 small
    rw [List.cons_append, List.cons_append, List.nil_append]
    unfold Der.declaredLength?
    dsimp only
    rw [if_pos clear]
    rfl
  | @long identifier count digits large counted =>
    obtain ⟨marked, octets⟩ := count_bits large
    have above : 128 < count.toNat := UInt8.lt_iff_toNat_lt.1 large
    rw [List.cons_append, List.cons_append]
    unfold Der.declaredLength?
    dsimp only
    rw [if_neg marked, octets, ← counted, List.take_left,
      if_neg (by rw [List.length_append]; omega)]
    simp only [List.length_cons, Option.some.injEq]
    omega

/-- Stripping a header leaves what is behind it. -/
theorem IsHeader.content? (h : IsHeader header n) (r : Bytes) :
    content? (header ++ r) = some r := by
  cases h with
  | short identifier small =>
    have clear := (octet_bits _).1.2 small
    rw [List.cons_append, List.cons_append, List.nil_append]
    unfold Der.content?
    dsimp only
    rw [if_pos clear]
  | long identifier large counted =>
    obtain ⟨marked, octets⟩ := count_bits large
    rw [List.cons_append, List.cons_append]
    unfold Der.content?
    dsimp only
    rw [if_neg marked, octets, ← counted, List.drop_left]

/-! ## Octets with and without an extent -/

/-- Why octets have no extent. -/
inductive LacksExtent : Bytes → Prop
  /-- There is no octet of a length. -/
  | withoutLength {b : Bytes} (short : b.length < 2) : LacksExtent b
  /-- The length is indefinite. -/
  | indefinite (identifier : UInt8) (r : Bytes) : LacksExtent (identifier :: 0x80 :: r)
  /-- There are fewer octets of the length than are counted. -/
  | cutLength (identifier : UInt8) {count : UInt8} {r : Bytes} (large : 128 < count)
    (short : r.length < count.toNat - 128) : LacksExtent (identifier :: count :: r)
  /-- There is less content than is declared. -/
  | cutContent {header r : Bytes} {n : Nat} (isHeader : IsHeader header n) (short : r.length < n) :
    LacksExtent (header ++ r)

/-- Octets begin with a header and the content that it declares, or they lack an extent. -/
theorem header_or_lacksExtent (b : Bytes) :
    (∃ header content rest, IsHeader header content.length ∧ b = header ++ content ++ rest) ∨
      LacksExtent b := by
  have behind {header r : Bytes} {n : Nat} (isHeader : IsHeader header n) :
      (∃ header' content rest, IsHeader header' content.length ∧
        header ++ r = header' ++ content ++ rest) ∨ LacksExtent (header ++ r) := by
    rcases Nat.lt_or_ge r.length n with short | enough
    · exact .inr (.cutContent isHeader short)
    · have size : (r.take n).length = n := List.length_take_of_le enough
      refine .inl ⟨header, r.take n, r.drop n, size.symm ▸ isHeader, ?_⟩
      rw [List.append_assoc, List.take_append_drop]
  match b with
  | [] => exact .inr (.withoutLength (by decide))
  | [_] => exact .inr (.withoutLength (by rw [List.length_singleton]; decide))
  | identifier :: length :: r =>
    rcases lt_trichotomy length.toNat 128 with small | indefinite | large
    · exact behind (.short identifier (UInt8.lt_iff_toNat_lt.2 small))
    · obtain rfl : length = 0x80 := UInt8.toNat_inj.1 indefinite
      exact .inr (.indefinite identifier r)
    · have large : 128 < length := UInt8.lt_iff_toNat_lt.2 large
      rcases Nat.lt_or_ge r.length (length.toNat - 128) with short | enough
      · exact .inr (.cutLength identifier large short)
      · have counted : (r.take (length.toNat - 128)).length = length.toNat - 128 :=
          List.length_take_of_le enough
        have found := behind (r := r.drop (length.toNat - 128)) (.long identifier large counted)
        rwa [List.cons_append, List.cons_append, List.take_append_drop] at found

/-- A header with its content is the extent, whatever follows. -/
theorem IsHeader.elementLength? (h : IsHeader header content.length) (rest : Bytes) :
    elementLength? (header ++ content ++ rest) = some (header ++ content).length := by
  refine elementLength?_eq_some.2 ⟨?_, ?_⟩
  · rw [List.append_assoc, h.declaredLength?, List.length_append]
  · rw [List.length_append, List.length_append, List.length_append]
    exact Nat.le_add_right _ _

/-- Where the extent is lacking, none is found. -/
theorem LacksExtent.elementLength?_eq_none (h : LacksExtent b) : elementLength? b = none := by
  refine Option.eq_none_iff_forall_ne_some.2 fun n found => ?_
  obtain ⟨declared, fits⟩ := elementLength?_eq_some.1 found
  cases h with
  | withoutLength short =>
    match b with
    | [] => simp [declaredLength?] at declared
    | [_] => simp [declaredLength?] at declared
    | _ :: _ :: _ =>
      rw [List.length_cons, List.length_cons] at short
      omega
  | indefinite identifier r =>
    have nothing : (0x80 &&& 0x7f : UInt8).toNat = 0 := by decide
    unfold declaredLength? at declared
    dsimp only at declared
    rw [if_neg (by decide), if_pos (.inl nothing)] at declared
    cases declared
  | cutLength identifier large short =>
    obtain ⟨marked, octets⟩ := count_bits large
    unfold declaredLength? at declared
    dsimp only at declared
    rw [if_neg marked, if_pos (.inr (by rw [octets]; exact short))] at declared
    cases declared
  | cutContent isHeader short =>
    rw [isHeader.declaredLength?, Option.some.injEq] at declared
    rw [List.length_append] at fits
    omega

/-- There is an extent exactly behind a header with the content that it declares. -/
theorem elementLength?_eq_some_iff : elementLength? b = some n ↔
    ∃ header content rest, IsHeader header content.length ∧ b = header ++ content ++ rest ∧
      n = (header ++ content).length := by
  constructor
  · intro found
    rcases header_or_lacksExtent b with ⟨header, content, rest, isHeader, rfl⟩ | lacks
    · refine ⟨header, content, rest, isHeader, rfl, ?_⟩
      exact (Option.some.inj ((isHeader.elementLength? rest).symm.trans found)).symm
    · rw [lacks.elementLength?_eq_none] at found
      cases found
  · rintro ⟨header, content, rest, isHeader, rfl, rfl⟩
    exact isHeader.elementLength? rest

/-- There is none exactly where something is missing or indefinite. -/
theorem elementLength?_eq_none_iff : elementLength? b = none ↔ LacksExtent b := by
  refine ⟨fun unread => ?_, fun lacks => lacks.elementLength?_eq_none⟩
  rcases header_or_lacksExtent b with ⟨header, content, rest, isHeader, rfl⟩ | lacks
  · rw [isHeader.elementLength?] at unread
    cases unread
  · exact lacks

/-! ## The extent by position -/

/-- The octets at positions from `start` on, asked for one by one; `none` if one of them is not there. -/
def octetsAt? (b : Bytes) (start count : Nat) : Option Bytes :=
  (List.range' start count).mapM fun position => b[position]?

/-- The extent, if there is as much. -/
def within? (b : Bytes) (extent : Nat) : Option Nat := if extent ≤ b.length then some extent else none

/-- The extent of the leading element, found by asking for single octets; `none` if one is asked for that
is not there. -/
def extentByPosition? (b : Bytes) : Option (Option Nat) := do
  if b.length < 2 then return none
  let length ← b[1]?
  if length &&& 0x80 = 0 then return within? b (2 + length.toNat)
  let count := (length &&& 0x7f).toNat
  if count = 0 ∨ b.length < 2 + count then return none
  let digits ← octetsAt? b 2 count
  return within? b (2 + count + digits.toNat)

/-- Octets that are there are found at their positions. -/
theorem octetsAt?_of_le {start count : Nat} (h : start + count ≤ b.length) :
    octetsAt? b start count = some ((b.drop start).take count) := by
  unfold octetsAt?
  induction count generalizing start with
  | zero => rfl
  | succ count ih =>
    have inside : start < b.length := by omega
    rw [List.range'_succ, List.mapM_cons, List.getElem?_eq_getElem inside, ih (by omega),
      List.drop_eq_getElem_cons inside, List.take_succ_cons]
    rfl

/-- An extent that reaches beyond the end is none. -/
theorem within?_eq (b : Bytes) (extent : Nat) :
    within? b extent = (some extent).filter (· ≤ b.length) := by
  simp [within?, Option.filter_some]

/-- No octet is asked for that is not there. -/
theorem extentByPosition?_eq (b : Bytes) : extentByPosition? b = some (elementLength? b) := by
  match b with
  | [] => rfl
  | [_] => rfl
  | identifier :: length :: r =>
    have two_le : ¬ (identifier :: length :: r).length < 2 := by
      rw [List.length_cons, List.length_cons]
      omega
    unfold extentByPosition? elementLength? declaredLength?
    simp only [within?_eq]
    rw [if_neg two_le]
    dsimp only [List.getElem?_cons_succ, List.getElem?_cons_zero, bind, Option.bind, pure]
    split
    · rfl
    · -- the octets of the length are asked for behind the check that they are there
      have sizes : (identifier :: length :: r).length < 2 + (length &&& 0x7f).toNat ↔
          r.length < (length &&& 0x7f).toNat := by
        rw [List.length_cons, List.length_cons]
        omega
      simp only [sizes]
      split
      · rfl
      · rename_i there
        rw [not_or, not_lt] at there
        have fits : 2 + (length &&& 0x7f).toNat ≤ (identifier :: length :: r).length :=
          not_lt.1 fun short => there.2.not_gt (sizes.1 short)
        rw [octetsAt?_of_le fits]
        rfl

/-! ## The extent is exact -/

/-- **The extent is exact.** Behind a header with its content, whatever the identifier and however many
octets the length has, the extent is both of them, whatever follows, and stripping the header leaves the
content. Every extent is at least that of a header and lies within the octets, and depends on them alone;
where there is none, something is missing or indefinite; and no octet is asked for that is not there. -/
theorem extent_exact :
    (∀ header content rest, IsHeader header content.length →
      elementLength? (header ++ content ++ rest) = some (header ++ content).length ∧
      content? (header ++ content) = some content) ∧
    (∀ (identifier : UInt8) (content : Bytes), (content.length < 128 →
        IsHeader [identifier, UInt8.ofNat content.length] content.length) ∧
      ∀ k, 0 < k → k ≤ 126 → content.length < 256 ^ k →
        IsHeader (identifier :: UInt8.ofNat (128 + k) :: Bytes.ofNat k content.length)
          content.length) ∧
    (∀ b n, elementLength? b = some n →
      2 ≤ n ∧ n ≤ b.length ∧ ∀ rest, elementLength? (b.take n ++ rest) = some n) ∧
    (∀ b, elementLength? b = none ↔ LacksExtent b) ∧
    ∀ b, extentByPosition? b = some (elementLength? b) := by
  refine ⟨fun header content rest isHeader => ?_, fun identifier content => ?_, fun b n found => ?_,
    fun _ => elementLength?_eq_none_iff, extentByPosition?_eq⟩
  · exact ⟨isHeader.elementLength? rest, isHeader.content? content⟩
  · refine ⟨IsHeader.short_of_lt identifier, fun k positive few fits => ?_⟩
    exact IsHeader.long_of_lt identifier positive (Nat.le_succ_of_le few) fits
  · obtain ⟨header, content, rest, isHeader, rfl, rfl⟩ := elementLength?_eq_some_iff.1 found
    refine ⟨?_, elementLength?_le found, fun other => ?_⟩
    · rw [List.length_append]
      exact Nat.le_add_right_of_le isHeader.two_le_length
    · rw [List.take_left]
      exact isHeader.elementLength? other

/-- A length of three in two octets, in front of three octets and padding. -/
theorem extent_exact_padded :
    elementLength? [0x30, 0x82, 0x00, 0x03, 0xaa, 0xbb, 0xcc, 0x00, 0x00] = some 7 ∧
    content? [0x30, 0x82, 0x00, 0x03, 0xaa, 0xbb, 0xcc] = some [0xaa, 0xbb, 0xcc] := by
  have header := (extent_exact.2.1 0x30 [0xaa, 0xbb, 0xcc]).2 2 (by decide) (by decide) (by decide)
  exact extent_exact.1 _ _ [0x00, 0x00] header

end ImageSigning.Der
