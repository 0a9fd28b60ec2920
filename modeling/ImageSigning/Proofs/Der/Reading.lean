import ImageSigning.Proofs.Numbers
import ImageSigning.Der.Tlv
import Mathlib.Data.List.Basic
import Mathlib.Data.List.Forall2

/-!
# Reading back what was written

Reading an element takes the octets of the element and leaves what follows, whatever that is. This is
what lets elements stand one after the other, inside one another, and in front of padding.

* **`Tlv.Denotes`** — octets that are read as one element wherever they stand in front of others.
* **`Tlv.denotes_element`** — every element that is written denotes itself.
* **`Tlv.denotes_of_read?`** — what was read as an element denotes it.
* **`Tlv.readMany?_flatten`** — elements one after the other are read one by one.
-/

namespace ImageSigning.Der

/-- The lengths that a rule reads: what can be counted, or four octets. -/
def Rules.lengthLimit : Rules → Nat
  | .basic => 256 ^ 126
  | .distinguished => 256 ^ 4

/-- Under any rules a length is spelled by 126 octets. -/
theorem Rules.lengthLimit_le (rules : Rules) : rules.lengthLimit ≤ 256 ^ 126 := by
  cases rules
  · exact le_rfl
  · exact Nat.pow_le_pow_right (by omega) (by omega)

namespace Tlv

/-- The element with an identifier octet and content. -/
def made (identifier : UInt8) (content : Bytes) : Tlv where
  tagClass := .ofOctet identifier
  constructed := identifier &&& 0x20 ≠ 0
  number := (identifier &&& 0x1f).toNat
  content := content
  whole := element identifier content

/-- Octets that are read as one element wherever they stand in front of others. -/
def Denotes (rules : Rules) (b : Bytes) (e : Tlv) : Prop :=
  ∀ rest : Bytes, read? rules (b ++ rest) = some (e, rest)

variable {rules : Rules} {b rest : Bytes} {e : Tlv}

/-! ## Elements that are written -/

/-- A length that was written is read, whatever follows it. -/
theorem readLength?_lengthOctets {n : Nat} (h : n < rules.lengthLimit) (rest : Bytes) :
    readLength? rules (lengthOctets n ++ rest) = some (n, rest) := by
  unfold lengthOctets
  split
  · rename_i short
    have value : (UInt8.ofNat n).toNat = n := UInt8.toNat_ofNat_of_lt' (by change n < 256; omega)
    have low : UInt8.ofNat n < 128 := UInt8.lt_iff_toNat_lt.2 (by rw [value]; exact short)
    simp [readLength?, low, value]
  · rename_i long
    -- the octets of the length are counted in one octet, and there are at most 126 of them
    have few : Bytes.octetCount n ≤ 126 :=
      Bytes.octetCount_le_iff.2 (lt_of_lt_of_le h rules.lengthLimit_le)
    have positive : 0 < Bytes.octetCount n := Bytes.octetCount_pos (by omega)
    have value : (UInt8.ofNat (128 + Bytes.octetCount n)).toNat = 128 + Bytes.octetCount n :=
      UInt8.toNat_ofNat_of_lt' (by change 128 + Bytes.octetCount n < 256; omega)
    have high : ¬ UInt8.ofNat (128 + Bytes.octetCount n) < 128 := by
      intro low
      have := UInt8.lt_iff_toNat_lt.1 low
      rw [value] at this
      simp at this
    have digits : List.take (Bytes.octetCount n) (Bytes.minimal n ++ rest) = Bytes.minimal n :=
      List.take_left' (Bytes.length_minimal n)
    have behind : List.drop (Bytes.octetCount n) (Bytes.minimal n ++ rest) = rest :=
      List.drop_left' (Bytes.length_minimal n)
    have accepted : rules = .basic ∨ (Bytes.octetCount n ≤ 4 ∧ 128 ≤ n ∧
        (Bytes.minimal n ++ rest).head? ≠ some 0) := by
      cases rules with
      | basic => exact .inl rfl
      | distinguished =>
        refine .inr ⟨Bytes.octetCount_le_iff.2 h, by omega, ?_⟩
        rcases shown : Bytes.minimal n with _ | ⟨x, r⟩
        · have := Bytes.length_minimal n
          rw [shown] at this
          simp at this
          omega
        · simpa using Bytes.head_minimal_ne_zero shown
    rw [List.cons_append]
    simp only [readLength?, high, if_false, value, Nat.add_sub_cancel_left, digits, behind,
      Bytes.length_minimal, Bytes.toNat_minimal]
    rw [if_neg (by omega), if_pos accepted]

/-- Every element that is written denotes itself. -/
theorem denotes_element {identifier : UInt8} {content : Bytes}
    (single : identifier &&& 0x1f ≠ 0x1f) (h : content.length < rules.lengthLimit) :
    Denotes rules (element identifier content) (made identifier content) := by
  intro rest
  unfold element
  rw [List.cons_append, List.append_assoc]
  have whole : List.take ((lengthOctets content.length ++ (content ++ rest)).length + 1 - rest.length)
      (identifier :: (lengthOctets content.length ++ (content ++ rest)))
        = element identifier content := by
    rw [element, ← List.append_assoc, ← List.cons_append]
    apply List.take_left'
    simp
    omega
  simp only [read?, readNumber?, single, ne_eq, not_false_eq_true, if_true, Option.bind_eq_bind,
    Option.bind_some, readLength?_lengthOctets h, List.take_left', List.drop_left', lt_irrefl,
    if_false]
  rw [whole]
  rfl

/-! ## Elements that were read -/

/-- The number of a tag is read from the octets that spell it, whatever follows them. -/
theorem readTagNumber?_prefix {n m : Nat} (h : readTagNumber? n b = some (m, rest)) :
    ∃ used : Bytes, b = used ++ rest ∧ used ≠ [] ∧
      ∀ s, readTagNumber? n (used ++ s) = some (m, s) := by
  fun_induction readTagNumber? n b with
  | case1 => simp at h
  | case2 n x r small =>
    obtain ⟨rfl, rfl⟩ := Prod.mk.inj (Option.some.inj h)
    exact ⟨[x], rfl, by simp, fun s => by simp [readTagNumber?, small]⟩
  | case3 n x r large ih =>
    obtain ⟨used, rfl, -, again⟩ := ih h
    refine ⟨x :: used, rfl, by simp, fun s => ?_⟩
    rw [List.cons_append, readTagNumber?, if_neg large, again]

/-- The number of a tag that the first octet may hold is read from the octets that spell it alone. -/
theorem readNumber?_prefix {first : UInt8} {n : Nat}
    (h : readNumber? rules first b = some (n, rest)) :
    ∃ used : Bytes, b = used ++ rest ∧ ∀ s, readNumber? rules first (used ++ s) = some (n, s) := by
  unfold readNumber? at h ⊢
  split at h
  · rename_i short
    obtain ⟨rfl, rfl⟩ := Prod.mk.inj (Option.some.inj h)
    refine ⟨[], rfl, fun s => ?_⟩
    rw [if_pos short, List.nil_append]
  · rename_i long
    simp only [Option.bind_eq_bind, Option.bind_eq_some_iff, Prod.exists] at h
    obtain ⟨m, r, found, h⟩ := h
    obtain ⟨used, rfl, filled, again⟩ := readTagNumber?_prefix found
    split at h
    · rename_i accepted
      obtain ⟨rfl, rfl⟩ := Prod.mk.inj (Option.some.inj h)
      refine ⟨used, rfl, fun s => ?_⟩
      -- the first octet of the number is among the used ones, so the rule decides the same
      have head : (used ++ s).head? = (used ++ r).head? := by
        rw [List.head?_append_of_ne_nil _ filled, List.head?_append_of_ne_nil _ filled]
      rw [if_neg long, again, head]
      exact if_pos accepted
    · simp at h

/-- A length is read from the octets that spell it, whatever follows them. -/
theorem readLength?_prefix {n : Nat} (h : readLength? rules b = some (n, rest)) :
    ∃ used : Bytes, b = used ++ rest ∧ ∀ s, readLength? rules (used ++ s) = some (n, s) := by
  match b with
  | [] => simp [readLength?] at h
  | x :: r =>
    simp only [readLength?] at h
    split at h
    · rename_i short
      obtain ⟨rfl, rfl⟩ := Prod.mk.inj (Option.some.inj h)
      exact ⟨[x], rfl, fun s => by simp [readLength?, short]⟩
    · rename_i long
      split at h
      · simp at h
      · rename_i there
        split at h
        · rename_i accepted
          obtain ⟨rfl, rfl⟩ := Prod.mk.inj (Option.some.inj h)
          rw [not_or, not_lt] at there
          obtain ⟨counted, fits⟩ := there
          refine ⟨x :: r.take (x.toNat - 128), by simp, fun s => ?_⟩
          have enough : (r.take (x.toNat - 128)).length = x.toNat - 128 := by
            rw [List.length_take] at fits ⊢
            omega
          have filled : r.take (x.toNat - 128) ≠ [] := by
            intro empty
            rw [empty] at enough
            exact counted enough.symm
          have head : (r.take (x.toNat - 128) ++ s).head? = r.head? := by
            rw [List.head?_append_of_ne_nil _ filled, List.head?_take, if_neg counted]
          rw [List.cons_append]
          simp only [readLength?, long, if_false, List.take_left' enough, List.drop_left' enough,
            head]
          rw [if_neg (by omega), if_pos accepted]
        · simp at h

/-- What was read as an element denotes it. -/
theorem denotes_of_read? (h : read? rules b = some (e, rest)) :
    b = e.whole ++ rest ∧ Denotes rules e.whole e := by
  match b with
  | [] => simp [read?] at h
  | first :: r =>
    simp only [read?, Option.bind_eq_bind, Option.bind_eq_some_iff, Prod.exists] at h
    obtain ⟨number, afterTag, tag, length, afterLength, counted, h⟩ := h
    split at h
    · simp at h
    · rename_i there
      obtain ⟨rfl, rfl⟩ := Prod.mk.inj (Option.some.inj h)
      obtain ⟨tagOctets, rfl, tagAgain⟩ := readNumber?_prefix tag
      obtain ⟨lengthOctets, rfl, lengthAgain⟩ := readLength?_prefix counted
      have fits : (afterLength.take length).length = length := by
        rw [List.length_take] at there ⊢
        omega
      have parts : afterLength = afterLength.take length ++ afterLength.drop length :=
        (List.take_append_drop _ _).symm
      generalize afterLength.take length = content at *
      generalize afterLength.drop length = behind at *
      subst parts
      have whole (s : Bytes) : List.take
          ((tagOctets ++ (lengthOctets ++ (content ++ s))).length + 1 - s.length)
          (first :: (tagOctets ++ (lengthOctets ++ (content ++ s))))
            = first :: (tagOctets ++ (lengthOctets ++ content)) := by
        have joined : first :: (tagOctets ++ (lengthOctets ++ (content ++ s)))
            = (first :: (tagOctets ++ (lengthOctets ++ content))) ++ s := by simp
        rw [joined]
        apply List.take_left'
        simp
        omega
      refine ⟨by rw [whole]; simp, fun s => ?_⟩
      have joined : first :: (tagOctets ++ (lengthOctets ++ content)) ++ s
          = first :: (tagOctets ++ (lengthOctets ++ (content ++ s))) := by simp
      simp only [whole, joined, read?, tagAgain, lengthAgain, Option.bind_eq_bind,
        Option.bind_some, List.take_left' fits, List.drop_left' fits]
      rw [if_neg (by omega)]

/-- What denotes an element has octets. -/
theorem Denotes.ne_nil (h : Denotes rules b e) : b ≠ [] := by
  rintro rfl
  have readNothing := h []
  simp [read?] at readNothing

/-- The octets of an element are those that denote it. -/
theorem Denotes.whole_eq (h : Denotes rules b e) : e.whole = b := by
  obtain ⟨joined, -⟩ := denotes_of_read? (h [])
  simpa using joined.symm

/-- Octets denote one element only. -/
theorem Denotes.unique {f : Tlv} (h : Denotes rules b e) (h' : Denotes rules b f) : e = f := by
  have same := (h []).symm.trans (h' [])
  simpa using same

/-- A number that stricter rules accept is the same under the basic ones. -/
theorem readNumber?_basic {first : UInt8} {n : Nat}
    (h : readNumber? rules first b = some (n, rest)) :
    readNumber? .basic first b = some (n, rest) := by
  unfold readNumber? at h ⊢
  split at h
  · rename_i short
    rw [if_pos short]
    exact h
  · rename_i long
    rw [if_neg long]
    simp only [Option.bind_eq_bind, Option.bind_eq_some_iff, Prod.exists] at h ⊢
    obtain ⟨m, r, found, h⟩ := h
    refine ⟨m, r, found, ?_⟩
    split at h
    · rw [if_pos (.inl trivial)]
      exact h
    · simp at h

/-- A length that stricter rules accept is the same under the basic ones. -/
theorem readLength?_basic {n : Nat} (h : readLength? rules b = some (n, rest)) :
    readLength? .basic b = some (n, rest) := by
  match b with
  | [] => simp [readLength?] at h
  | x :: r =>
    simp only [readLength?] at h ⊢
    split at h
    · rename_i short
      rw [if_pos short]
      exact h
    · rename_i long
      split at h
      · simp at h
      · rename_i there
        rw [if_neg long, if_neg there, if_pos (.inl trivial)]
        split at h
        · exact h
        · simp at h

/-- What the distinguished rules read, the basic rules read too. -/
theorem read?_basic (h : read? rules b = some (e, rest)) : read? .basic b = some (e, rest) := by
  match b with
  | [] => simp [read?] at h
  | first :: r =>
    simp only [read?, Option.bind_eq_bind, Option.bind_eq_some_iff, Prod.exists] at h ⊢
    obtain ⟨number, afterTag, tag, length, afterLength, counted, h⟩ := h
    exact ⟨number, afterTag, readNumber?_basic tag, length, afterLength,
      readLength?_basic counted, h⟩

/-- Octets that denote an element under stricter rules denote it under the basic ones. -/
theorem Denotes.basic (h : Denotes rules b e) : Denotes .basic b e :=
  fun rest => read?_basic (h rest)

/-! ## Elements one after the other -/

/-- Elements one behind the other are read one after the other, if the fuel lasts. -/
theorem readManyWithin?_flatten {bs : List Bytes} {es : List Tlv}
    (h : List.Forall₂ (Denotes rules) bs es) {fuel : Nat} (enough : bs.flatten.length ≤ fuel) :
    readManyWithin? rules fuel bs.flatten = some es := by
  induction h generalizing fuel with
  | nil => cases fuel <;> rfl
  | @cons b e bs es here _ ih =>
    obtain ⟨x, r, rfl⟩ := List.exists_cons_of_ne_nil here.ne_nil
    rw [List.flatten_cons, List.length_append, List.length_cons] at enough
    match fuel with
    | 0 => omega
    | fuel + 1 =>
      have first := here bs.flatten
      rw [List.cons_append] at first
      have others : readManyWithin? rules fuel bs.flatten = some es := ih (by omega)
      simp [readManyWithin?, first, others]

/-- Elements one after the other are read one by one. -/
theorem readMany?_flatten {bs : List Bytes} {es : List Tlv}
    (h : List.Forall₂ (Denotes rules) bs es) : readMany? rules bs.flatten = some es :=
  readManyWithin?_flatten h le_rfl

/-- The octets of the elements are those that denote them. -/
theorem map_whole_eq {bs : List Bytes} {es : List Tlv} (h : List.Forall₂ (Denotes rules) bs es) :
    es.map (·.whole) = bs := by
  induction h with
  | nil => rfl
  | cons here _ ih => rw [List.map_cons, here.whole_eq, ih]

/-- An element alone is read as the one that there is. -/
theorem readMany?_of_denotes (h : Denotes rules b e) : readMany? rules b = some [e] := by
  have alone := readMany?_flatten (.cons h .nil)
  rwa [List.flatten_cons, List.flatten_nil, List.append_nil] at alone

/-- An element without anything behind it is read as the only one. -/
theorem readOnly?_of_denotes (h : Denotes rules b e) : readOnly? rules b = some e := by
  have alone := h []
  rw [List.append_nil] at alone
  simp [readOnly?, alone]

/-- The only element that is read is denoted by the octets that it was read from. -/
theorem denotes_of_readOnly? (h : readOnly? rules b = some e) : e.whole = b ∧ Denotes rules b e := by
  unfold readOnly? at h
  split at h
  · rename_i found
    obtain rfl := Option.some.inj h
    obtain ⟨whole, denotes⟩ := denotes_of_read? found
    rw [List.append_nil] at whole
    exact ⟨whole.symm, whole ▸ denotes⟩
  · simp at h

/-- Each element that is read is denoted by its own octets. -/
theorem denotes_of_readManyWithin? {fuel : Nat} {es : List Tlv}
    (h : readManyWithin? rules fuel b = some es) : ∀ e ∈ es, Denotes rules e.whole e := by
  induction fuel generalizing b es with
  | zero =>
    rcases b with _ | ⟨x, r⟩
    · obtain rfl := Option.some.inj h
      simp
    · simp [readManyWithin?] at h
  | succ fuel ih =>
    rcases b with _ | ⟨x, r⟩
    · obtain rfl := Option.some.inj h
      simp
    · simp only [readManyWithin?, Option.bind_eq_bind, Option.bind_eq_some_iff, Prod.exists] at h
      obtain ⟨first, rest, found, others, more, h⟩ := h
      obtain rfl := Option.some.inj h
      intro e m
      rcases List.mem_cons.1 m with rfl | m
      · exact (denotes_of_read? found).2
      · exact ih more e m

/-- The members that were read denote themselves. -/
theorem denotes_of_members? {es : List Tlv} (h : e.members? rules = some es) :
    ∀ m ∈ es, Denotes rules m.whole m := by
  unfold members? at h
  split at h
  · exact denotes_of_readManyWithin? h
  · simp at h

end Tlv

end ImageSigning.Der
