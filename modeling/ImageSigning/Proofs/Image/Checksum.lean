import ImageSigning.Proofs.Image.Records
import ImageSigning.Proofs.Image.Reload
import Mathlib.Algebra.BigOperators.Group.Finset.Basic
import Mathlib.Algebra.BigOperators.Group.List.Basic
import Mathlib.Algebra.Order.BigOperators.Group.Finset
import Mathlib.Data.Nat.ModEq

/-!
# The checksum of a written image

A checksum leaves out the number of four octets in which the checksum field begins. Where the field is
aligned this is the field, so that filling it in changes no checksum. Elsewhere some octets of the field
lie in the next number, which is added up like any other: a file that is written has the checksum that
stands in it exactly if those octets come to the same as before.

The numbers are added up with the carry put back in, and the sum is folded to two octets. Both keep a
sum up to multiples of 65535, and neither makes zero of anything else.

* **`fold_eq_iff`** — what two sums are folded to is the same exactly if they are, up to such multiples.
* **`checksum_eq_iff`** — when a file whose checksum field alone is another has the same checksum.
* **`Image.checksum_written`** — when a written file has the checksum that stands in it, and on which
  octets of the field it depends.
-/

namespace ImageSigning

open Bytes

namespace Checksum

/-! ## The numbers of four octets -/

/-- The number with index `i`, with zeros behind the end. -/
def wordAt (b : Bytes) (i : Nat) : Nat := numberIn b (4 * i) 4

/-- The words of an image are those at its multiples of four. -/
theorem words_eq (b : Bytes) : words b = (List.range ((b.length + 3) / 4)).map (wordAt b) := by
  fun_induction words b with
  | case1 => rfl
  | case2 a => simp [wordAt, numberIn, octetAt, toNatLE]
  | case3 a b => simp [wordAt, numberIn, octetAt, toNatLE]
  | case4 a b c => simp [wordAt, numberIn, octetAt, toNatLE]
  | case5 a b c d r ih =>
    have count : ((a :: b :: c :: d :: r).length + 3) / 4 = (r.length + 3) / 4 + 1 := by
      simp only [List.length_cons]
      omega
    have first : toNatLE [a, b, c, d] = wordAt (a :: b :: c :: d :: r) 0 := by
      rw [wordAt, Nat.mul_zero, ← toNatLE_take]
      rfl
    have others (i : Nat) : wordAt (a :: b :: c :: d :: r) (i + 1) = wordAt r i := by
      rw [wordAt, wordAt, Nat.mul_succ, numberIn_cons_succ, numberIn_cons_succ,
        numberIn_cons_succ, numberIn_cons_succ]
    rw [count, List.range_succ_eq_map, List.map_cons, List.map_map, first, ih]
    simp [Function.comp_def, others]

/-- A word is less than the power of two that it has bits for. -/
theorem wordAt_lt (b : Bytes) (i : Nat) : wordAt b i < 2 ^ 32 := numberIn_lt b (4 * i) 4

/-! ## Adding up -/

/-- Adding with the carry put back in adds, up to multiples of 65535. -/
theorem addCarry_spec {s w : Nat} (hs : s < 2 ^ 32) (hw : w < 2 ^ 32) :
    addCarry s w < 2 ^ 32 ∧ addCarry s w ≡ s + w [MOD 65535] ∧
      (0 < addCarry s w ↔ 0 < s + w) := by
  unfold addCarry Nat.ModEq
  dsimp only
  by_cases carried : 0x100000000 ≤ s + w
  · rw [if_pos carried]
    omega
  · rw [if_neg carried]
    omega

/-- Adding words with their carries put back keeps the sum modulo 65535, below the size of a word. -/
theorem foldl_addCarry {ws : List Nat} (small : ∀ w ∈ ws, w < 2 ^ 32) {s : Nat} (hs : s < 2 ^ 32) :
    ws.foldl addCarry s < 2 ^ 32 ∧ ws.foldl addCarry s ≡ s + ws.sum [MOD 65535] ∧
      (0 < ws.foldl addCarry s ↔ 0 < s + ws.sum) := by
  induction ws generalizing s with
  | nil => exact ⟨hs, Nat.ModEq.refl _, Iff.rfl⟩
  | cons w ws ih =>
    obtain ⟨first, others⟩ := List.forall_mem_cons.1 small
    obtain ⟨limit, same, positive⟩ := addCarry_spec hs first
    obtain ⟨limit', same', positive'⟩ := ih others limit
    rw [List.foldl_cons, List.sum_cons, ← Nat.add_assoc]
    refine ⟨limit', same'.trans (same.add_right _), ?_⟩
    rw [positive']
    omega

/-- A sum that is not zero is folded to a number from 1 to 65535, the same up to multiples of that. -/
theorem fold_spec {s : Nat} (hs : s < 2 ^ 32) (positive : 0 < s) :
    0 < fold s ∧ fold s ≤ 65535 ∧ fold s ≡ s [MOD 65535] := by
  obtain ⟨once, shown⟩ : ∃ once, once = s % 0x10000 + s / 0x10000 := ⟨_, rfl⟩
  unfold fold Nat.ModEq
  dsimp only
  rw [← shown]
  by_cases carried : 0x10000 ≤ once
  · have one : once / 0x10000 = 1 := by omega
    have folded : (once + once / 0x10000) % 0x10000 = once - 65535 := by omega
    omega
  · have folded : (once + once / 0x10000) % 0x10000 = once := by omega
    omega

/-- What two sums are folded to is the same exactly if they are, up to multiples of 65535. -/
theorem fold_eq_iff {s t : Nat} (hs : s < 2 ^ 32) (ht : t < 2 ^ 32) (s_pos : 0 < s)
    (t_pos : 0 < t) : fold s = fold t ↔ s ≡ t [MOD 65535] := by
  obtain ⟨lower, upper, same⟩ := fold_spec hs s_pos
  obtain ⟨lower', upper', same'⟩ := fold_spec ht t_pos
  constructor
  · intro h
    exact same.symm.trans (h ▸ same')
  · intro h
    have both : fold s ≡ fold t [MOD 65535] := (same.trans h).trans same'.symm
    unfold Nat.ModEq at both
    omega

/-! ## The field among the numbers -/

/-- The number in those octets of a field of four octets that lie behind the number in which the field
begins; zero where the field is aligned. -/
def spilled (b : Bytes) (c : Nat) : Nat := numberIn b (c + 4 - c % 4) (c % 4)

/-- An aligned field spills nothing. -/
theorem spilled_of_dvd {c : Nat} (aligned : 4 ∣ c) (b : Bytes) : spilled b c = 0 := by
  rw [spilled, Nat.mod_eq_zero_of_dvd aligned]
  rfl

/-- The sum of all numbers but the one in which the field begins. -/
def others (b : Bytes) (c : Nat) : Nat :=
  ∑ i ∈ (Finset.range ((b.length + 3) / 4)).erase (c / 4), wordAt b i

/-- Without the word of the field, the words add up to the others. -/
theorem sum_eraseIdx_words {b : Bytes} {c : Nat} (inside : c < b.length) :
    ((words b).eraseIdx (c / 4)).sum = others b c := by
  have here : c / 4 < (words b).length := by
    rw [words_eq, List.length_map, List.length_range]
    omega
  have word : (words b)[c / 4] = wordAt b (c / 4) := by
    simp [words_eq]
  have list : (words b).sum = ∑ i ∈ Finset.range ((b.length + 3) / 4), wordAt b i := by
    rw [words_eq]
    rfl
  have left_out := List.CommMonoid.add_sum_eraseIdx here
  have erased := Finset.add_sum_erase (Finset.range ((b.length + 3) / 4)) (wordAt b)
    (Finset.mem_range.2 (show c / 4 < (b.length + 3) / 4 by omega))
  rw [word, list] at left_out
  unfold others
  omega

section
variable {a b : Bytes} {c : Nat}

/-- A number in two parts is made up of both. -/
theorem numberIn_add (b : Bytes) (offset m n : Nat) :
    numberIn b offset (m + n) = numberIn b offset m + 256 ^ m * numberIn b (offset + m) n := by
  induction m generalizing offset with
  | zero => simp [numberIn]
  | succ m ih =>
    rw [Nat.succ_add, numberIn, numberIn, ih, pow_succ, Nat.add_right_comm offset 1 m,
      Nat.add_assoc offset m 1]
    ring

/-- Octets that are the same outside the field have the same sum, but for what of the field is
added up. -/
theorem others_add_spilled (length : b.length = a.length) (inside : c + 4 ≤ a.length)
    (same : ∀ n, n < c ∨ c + 4 ≤ n → octetAt b n = octetAt a n) :
    others b c + spilled a c = others a c + spilled b c := by
  have number {offset width : Nat} (outside : offset + width ≤ c ∨ c + 4 ≤ offset) :
      numberIn b offset width = numberIn a offset width :=
    numberIn_congr fun k small => same _ (by omega)
  unfold others
  rw [length]
  by_cases aligned : c % 4 = 0
  · rw [spilled_of_dvd (Nat.dvd_of_mod_eq_zero aligned),
      spilled_of_dvd (Nat.dvd_of_mod_eq_zero aligned)]
    congr 1
    refine Finset.sum_congr rfl fun i m => number ?_
    have other := Finset.ne_of_mem_erase m
    omega
  · -- the field ends in the next number, whose other octets are the same
    have next : c / 4 + 1 ∈ (Finset.range ((a.length + 3) / 4)).erase (c / 4) := by
      rw [Finset.mem_erase, Finset.mem_range]
      omega
    have split (d : Bytes) : wordAt d (c / 4 + 1)
        = spilled d c + 256 ^ (c % 4) * numberIn d (c + 4) (4 - c % 4) := by
      have place : 4 * (c / 4 + 1) = c + 4 - c % 4 := by omega
      have width : c % 4 + (4 - c % 4) = 4 := by omega
      have behind : c + 4 - c % 4 + c % 4 = c + 4 := by omega
      have parts := numberIn_add d (c + 4 - c % 4) (c % 4) (4 - c % 4)
      rwa [width, behind, ← spilled, ← place, ← wordAt] at parts
    have rest : ∑ i ∈ ((Finset.range ((a.length + 3) / 4)).erase (c / 4)).erase (c / 4 + 1),
        wordAt b i = ∑ i ∈ ((Finset.range ((a.length + 3) / 4)).erase (c / 4)).erase (c / 4 + 1),
        wordAt a i := by
      refine Finset.sum_congr rfl fun i m => number ?_
      have other := Finset.ne_of_mem_erase m
      have other' := Finset.ne_of_mem_erase (Finset.mem_of_mem_erase m)
      omega
    rw [← Finset.add_sum_erase _ (wordAt b) next, ← Finset.add_sum_erase _ (wordAt a) next, rest,
      split, split, number (.inr (Nat.le_refl _))]
    omega

/-! ## The checksum of a file whose field is another -/

/-- The sum leaves the field's word out, modulo 65535. -/
theorem sum_spec (b : Bytes) (inside : c < b.length) :
    sum (c / 4) b < 2 ^ 32 ∧ sum (c / 4) b ≡ others b c [MOD 65535] ∧
      (0 < sum (c / 4) b ↔ 0 < others b c) := by
  have small : ∀ w ∈ (words b).eraseIdx (c / 4), w < 2 ^ 32 := by
    intro w m
    have m := List.mem_of_mem_eraseIdx m
    rw [words_eq, List.mem_map] at m
    obtain ⟨i, -, rfl⟩ := m
    exact wordAt_lt b i
  have folded := foldl_addCarry small (Nat.two_pow_pos 32)
  rwa [Nat.zero_add, sum_eraseIdx_words inside] at folded

/-- The octets that are added up begin with two letters, so that the sum is not zero. -/
theorem others_pos {h : Headers} (accepted : Headers.read a = .ok h) (late : 4 ≤ c)
    (inside : c < a.length) (k : Nat) : 0 < others (a ++ zeros k) c := by
  obtain ⟨p, -⟩ := Headers.read_eq_ok_iff.1 accepted
  obtain ⟨isFrom, place⟩ := Record.isFrom_of_read? p.short_read
  obtain ⟨offset, width⟩ := Prod.mk.inj place
  have letter : octetAt a 0 = 0x4d := by
    have first := isFrom 0 (by omega)
    rw [offset] at first
    rw [← first, ← @octetAt_take _ 2 0 (by decide), p.short_magic]
    decide
  have word : 0 < wordAt (a ++ zeros k) 0 := by
    have here : octetAt (a ++ zeros k) 0 = 0x4d := by rw [octetAt_append_zeros, letter]
    rw [wordAt, Nat.mul_zero, numberIn, here]
    exact Nat.lt_of_lt_of_le (by decide) (Nat.le_add_right _ _)
  have among : 0 ∈ (Finset.range (((a ++ zeros k).length + 3) / 4)).erase (c / 4) := by
    rw [Finset.mem_erase, Finset.mem_range, List.length_append]
    omega
  exact lt_of_lt_of_le word (Finset.single_le_sum (fun i _ => Nat.zero_le _) among)

/-- The checksum of a file whose headers can be read. -/
theorem checksum_eq {e : Nat} {h : Headers} (fields : Headers.HasFields a c e)
    (accepted : Headers.read a = .ok h) : checksum a = .ok
      (fold (sum (c / 4) (a ++ zeros (Headers.excess a))) + (a.length + Headers.excess a)) := by
  obtain ⟨start, -⟩ := Headers.read_eq_ok accepted
  have place : h.checksum = c := by
    rw [Headers.checksum, start, fields.checksum, checksumDistance]
  rw [checksum, accepted, Except.map, ofHeaders, Headers.foldl_records accepted, place]
  simp

/-- A file whose checksum field alone is another has the same checksum exactly if its headers can be
read and what of the field is added up is the same, up to multiples of 65535. -/
theorem checksum_eq_iff {e x : Nat} (fields : Headers.HasFields a c e)
    (length : b.length = a.length) (inside : c + 4 ≤ a.length)
    (same : ∀ n, n < c ∨ c + 4 ≤ n → octetAt b n = octetAt a n) (summed : checksum a = .ok x) :
    checksum b = .ok x ↔
      (∃ h, Headers.read b = .ok h) ∧ spilled b c ≡ spilled a c [MOD 65535] := by
  have late := fields.checksum_ge
  obtain ⟨h, accepted, -⟩ := Outcome.map_eq_ok.1 summed
  have value := Except.ok.inj ((checksum_eq fields accepted).symm.trans summed)
  have same' (n : Nat) (outside : n < c ∨ c + 4 ≤ n) :
      octetAt (b ++ zeros (Headers.excess a)) n = octetAt (a ++ zeros (Headers.excess a)) n := by
    rw [octetAt_append_zeros, octetAt_append_zeros, same n outside]
  have spill (d : Bytes) (k : Nat) : spilled (d ++ zeros k) c = spilled d c :=
    numberIn_congr fun k _ => octetAt_append_zeros ..
  have difference := others_add_spilled (by simp [length])
    (show c + 4 ≤ (a ++ zeros (Headers.excess a)).length by rw [List.length_append]; omega) same'
  rw [spill, spill] at difference
  have either {h' : Headers} (accepted' : Headers.read b = .ok h') :
      checksum b = .ok x ↔ spilled b c ≡ spilled a c [MOD 65535] := by
    have fields' : Headers.HasFields b c e := fields.congr fun n _ => same n
    have excess : Headers.excess b = Headers.excess a := fields.excess_congr length same
    obtain ⟨limit, sum_a, positive⟩ := sum_spec (c := c) (a ++ zeros (Headers.excess a))
      (by rw [List.length_append]; omega)
    obtain ⟨limit', sum_b, positive'⟩ := sum_spec (c := c) (b ++ zeros (Headers.excess a))
      (by rw [List.length_append]; omega)
    have folds := fold_eq_iff limit' limit
      (positive'.2 (others_pos accepted' (by omega) (by omega) _))
      (positive.2 (others_pos accepted (by omega) (by omega) _))
    rw [checksum_eq fields' accepted', excess, length, Except.ok.injEq, ← value,
      Nat.add_right_cancel_iff, folds]
    unfold Nat.ModEq at sum_a sum_b ⊢
    omega
  constructor
  · intro summed'
    obtain ⟨h', accepted', -⟩ := Outcome.map_eq_ok.1 summed'
    exact ⟨⟨h', accepted'⟩, (either accepted').1 summed'⟩
  · rintro ⟨⟨h', accepted'⟩, spills⟩
    exact (either accepted').2 spills

end

end Checksum

/-! ## The checksum in a written image -/

namespace Image

section
variable {a b octets : Bytes} {offset : Nat}

/-- Octets with the same ones replaced are the same where they were, and where those were put. -/
theorem getElem?_patch_congr {n : Nat} (length : b.length = a.length)
    (before : n < offset → b[n]? = a[n]?)
    (behind : ∀ k, offset + octets.length ≤ k → b[k]? = a[k]?) :
    (patch b offset octets)[n]? = (patch a offset octets)[n]? := by
  have front : (b.take offset).length = (a.take offset).length := by
    rw [List.length_take, List.length_take, length]
  have back : b.drop (offset + octets.length) = a.drop (offset + octets.length) := by
    refine List.ext_getElem? fun k => ?_
    rw [List.getElem?_drop, List.getElem?_drop, behind _ (Nat.le_add_right ..)]
  rw [patch, patch, List.append_assoc, List.append_assoc, back]
  by_cases here : n < (a.take offset).length
  · have early : n < offset := by
      rw [List.length_take] at here
      omega
    rw [List.getElem?_append_left here, List.getElem?_append_left (front ▸ here),
      List.getElem?_take_of_lt early, List.getElem?_take_of_lt early, before early]
  · rw [List.getElem?_append_right (not_lt.1 here),
      List.getElem?_append_right (front ▸ not_lt.1 here), front]

/-- Octets that agree elsewhere are the same once the place is patched. -/
theorem patch_congr (length : b.length = a.length)
    (same : ∀ n, n < offset ∨ offset + octets.length ≤ n → b[n]? = a[n]?) :
    patch b offset octets = patch a offset octets :=
  List.ext_getElem? fun n =>
    getElem?_patch_congr length (fun before => same n (.inl before)) fun k far => same k (.inr far)

end

section
variable {image : Image} {data : Bytes} {c e : Nat} {out out' : Bytes}

/-- Before its checksum is filled in, a file says what the image says up to the directory entry. -/
theorem octetAt_unsealed (inside : e + 8 ≤ image.data.length) {n : Nat} (before : n < e) :
    octetAt (image.unsealed e) n = octetAt image.data n := by
  have octets : (numberOctets image.tablePlace).length = 8 := by
    rw [length_numberOctets, length_tablePlace]
  have fits : e + (numberOctets image.tablePlace).length ≤ image.data.length := by omega
  have here : n < (patch image.data e (numberOctets image.tablePlace)).length := by
    rw [length_patch fits]
    omega
  rw [unsealed, octetAt_append_left here, octetAt, octetAt, getElem?_patch fits (.inl before)]

/-- What the field of an image holds counts alike before and after the table is put behind it. -/
theorem spilled_unsealed (apart : c + 4 ≤ e) (inside : e + 8 ≤ image.data.length) :
    Checksum.spilled (image.unsealed e) c = Checksum.spilled image.data c :=
  numberIn_congr fun k small => octetAt_unsealed inside (by omega)

/-- Images that are the same outside the checksum field are so with the table behind them. -/
theorem getElem?_unsealed_congr (apart : c + 4 ≤ e) (length : data.length = image.data.length)
    (same : ∀ n, n < c ∨ c + 4 ≤ n → data[n]? = image.data[n]?) (inside : e + 8 ≤ data.length)
    {n : Nat} (outside : n < c ∨ c + 4 ≤ n) :
    (({ image with data := data } : Image).unsealed e)[n]? = (image.unsealed e)[n]? := by
  have place : ({ image with data := data } : Image).tablePlace = image.tablePlace := by
    unfold tablePlace
    rw [length]
    rfl
  have octets : (numberOctets image.tablePlace).length = 8 := by
    rw [length_numberOctets, length_tablePlace]
  have patched : (patch data e (numberOctets image.tablePlace))[n]?
      = (patch image.data e (numberOctets image.tablePlace))[n]? :=
    getElem?_patch_congr length (fun _ => same n outside) fun k far => same k (by omega)
  have long : (patch data e (numberOctets image.tablePlace)).length
      = (patch image.data e (numberOctets image.tablePlace)).length := by
    rw [length_patch (by omega), length_patch (by omega), length]
  rw [unsealed, unsealed, place]
  change (patch data e (numberOctets image.tablePlace) ++ image.certificateTable)[n]? = _
  rw [List.getElem?_append, List.getElem?_append, long, patched]

/-- Filling the checksum in changes nothing else. -/
theorem sealed_of_toBytes (checksum : image.checksum = c) (entry : image.entry = e)
    (written : image.toBytes = .ok out) :
    Checksum.checksum (image.unsealed e) = .ok (numberIn out c 4) ∧
      out = patch (image.unsealed e) c (ofNatLE 4 (numberIn out c 4)) ∧
      out.length = (image.unsealed e).length ∧
      ∀ n, n < c ∨ c + 4 ≤ n → out[n]? = (image.unsealed e)[n]? := by
  obtain ⟨-, -, -, sum, summed, small, there, -, rfl⟩ := (toBytes_eq_ok checksum entry).1 written
  have four : (ofNatLE 4 sum).length = 4 := length_ofNatLE 4 sum
  have front : ((image.unsealed e).take c).length = c := by
    rw [List.length_take]
    omega
  have number : numberIn (patch (image.unsealed e) c (ofNatLE 4 sum)) c 4 = sum := by
    rw [patch, List.append_assoc, numberIn_ofNatLE front rfl small]
  rw [number]
  exact ⟨summed, rfl, length_patch (by rw [four]; exact there), fun n outside =>
    getElem?_patch (by rw [four]; exact there) (by rw [four]; exact outside)⟩

section
variable (laid : IsLaidOut image c e) (inside : e + 8 ≤ image.data.length)
include laid inside

/-- An image with its table written, and the checksum not yet, has its fields where it had them. -/
theorem hasFields_unsealed : Headers.HasFields (image.unsealed e) c e :=
  laid.fields.congr fun _ before _ => octetAt_unsealed inside before

variable (apart : c + 4 ≤ e)
include apart

/-- A written file has the checksum that stands in it exactly if its headers can be read and what of
the field is added up comes to the same as before. -/
theorem checksum_toBytes_iff (written : image.toBytes = .ok out) :
    Checksum.checksum out = .ok (numberIn out c 4) ↔ (∃ h, Headers.read out = .ok h) ∧
      Checksum.spilled out c ≡ Checksum.spilled image.data c [MOD 65535] := by
  obtain ⟨summed, -, length, same⟩ := sealed_of_toBytes laid.checksum laid.entry written
  have whole : c + 4 ≤ (image.unsealed e).length := by
    rw [length_unsealed inside]
    omega
  have octets (n : Nat) (outside : n < c ∨ c + 4 ≤ n) :
      octetAt out n = octetAt (image.unsealed e) n := by
    rw [octetAt, octetAt, same n outside]
  rw [Checksum.checksum_eq_iff (hasFields_unsealed laid inside) length whole octets summed,
    spilled_unsealed apart inside]

/-- The headers of a written file can be read if those of the sections stand behind the field. -/
theorem exists_read_toBytes (behind : c + 4 ≤ Headers.sectionsStart image.data)
    (written : image.toBytes = .ok out) : ∃ h, Headers.read out = .ok h := by
  obtain ⟨summed, -, length, same⟩ := sealed_of_toBytes laid.checksum laid.entry written
  obtain ⟨h, accepted, -⟩ := Outcome.map_eq_ok.1 summed
  have start : Headers.sectionsStart (image.unsealed e) = Headers.sectionsStart image.data := by
    have place := laid.fields.checksum
    unfold Headers.sectionsStart Headers.optionalStart at place ⊢
    rw [numberIn_congr fun k small => octetAt_unsealed inside (show 60 + k < e by omega),
      numberIn_congr fun k small =>
        octetAt_unsealed inside (show numberIn image.data 60 4 + 20 + k < e by omega)]
  exact Headers.exists_read_of_agree accepted (hasFields_unsealed laid inside) length same
    (start ▸ behind)

/-- Images that are the same outside the field are written to the same file exactly if what of the field
is added up comes to the same. -/
theorem toBytes_eq_toBytes_iff (length : data.length = image.data.length)
    (same : ∀ n, n < c ∨ c + 4 ≤ n → data[n]? = image.data[n]?) (written : image.toBytes = .ok out)
    (written' : ({ image with data := data } : Image).toBytes = .ok out') :
    out' = out ↔ Checksum.spilled data c ≡ Checksum.spilled image.data c [MOD 65535] := by
  obtain ⟨other, shown⟩ : ∃ other : Image, other = { image with data := data } := ⟨_, rfl⟩
  have inside' : e + 8 ≤ other.data.length := by
    rw [shown, length]
    exact inside
  have apart' : (other.unsealed e).length = (image.unsealed e).length := by
    rw [length_unsealed inside', length_unsealed inside, shown, length]
    rfl
  have agree (n : Nat) (outside : n < c ∨ c + 4 ≤ n) :
      (other.unsealed e)[n]? = (image.unsealed e)[n]? := by
    rw [shown]
    exact getElem?_unsealed_congr apart length same (by rw [length]; exact inside) outside
  obtain ⟨summed, file, -, -⟩ := sealed_of_toBytes laid.checksum laid.entry written
  obtain ⟨summed', file', -, -⟩ := @sealed_of_toBytes other c e out'
    (by rw [shown, laid.checksum]) (by rw [shown, laid.entry]) (shown ▸ written')
  have files : out' = out ↔ numberIn out' c 4 = numberIn out c 4 := by
    constructor
    · intro h
      rw [h]
    · intro h
      rw [file', file, h, patch_congr apart' fun n outside => agree n (by simpa using outside)]
  have numbers : numberIn out' c 4 = numberIn out c 4 ↔
      Checksum.checksum (other.unsealed e) = .ok (numberIn out c 4) := by
    rw [summed', Except.ok.injEq]
  have whole : c + 4 ≤ (image.unsealed e).length := by
    rw [length_unsealed inside]
    omega
  obtain ⟨h, accepted, -⟩ := Outcome.map_eq_ok.1 summed'
  rw [files, numbers, Checksum.checksum_eq_iff (hasFields_unsealed laid inside) apart' whole
    (fun n outside => by rw [octetAt, octetAt, agree n outside]) summed,
    spilled_unsealed apart inside, spilled_unsealed apart inside', shown]
  exact and_iff_right ⟨h, shown ▸ accepted⟩

end

/-- **The checksum in a written image.** Whatever signatures an image has that was loaded and can be
digested, the file that it is written to has the checksum that stands in it exactly if its headers can
be read and those octets of the field that are added up come to what they came to before. That is no
condition where the field is aligned, and the headers can be read at least where those of the sections
stand behind the field. An image that is the same outside the field is written to the same file under
the same condition: so what the field held counts for nothing where it is aligned. -/
theorem checksum_written {path : String} {w w₁ : World} {regions : List (Nat × Nat)} {store : Store}
    (found : load path w = (.ok image, w₁)) (valid : image.regions = .ok regions)
    (written : ({ image with signatures := store } : Image).toBytes = .ok out) :
    ∃ c : Nat, image.checksum = c ∧
      (Checksum.checksum out = .ok (numberIn out c 4) ↔ (∃ h, Headers.read out = .ok h) ∧
        Checksum.spilled out c ≡ Checksum.spilled image.data c [MOD 65535]) ∧
      (4 ∣ c → (Checksum.checksum out = .ok (numberIn out c 4) ↔ ∃ h, Headers.read out = .ok h)) ∧
      (c + 4 ≤ Headers.sectionsStart image.data → ∃ h, Headers.read out = .ok h) ∧
      ∀ data out', data.length = image.data.length →
        (∀ n, n < c ∨ c + 4 ≤ n → data[n]? = image.data[n]?) →
        ({ image with data := data, signatures := store } : Image).toBytes = .ok out' →
        (out' = out ↔ Checksum.spilled data c ≡ Checksum.spilled image.data c [MOD 65535]) ∧
        (4 ∣ c → out' = out) := by
  obtain ⟨raw, -, found, -⟩ := exists_ofFile_of_load found
  obtain ⟨c, e, laid⟩ := isLaidOut_of_ofFile found
  unfold Image.regions at valid
  rw [laid.checksum, laid.entry] at valid
  obtain ⟨apart, inside⟩ := le_of_signableRegions valid
  have laid' : IsLaidOut { image with signatures := store } c e :=
    ⟨laid.checksum, laid.entry, laid.fields, laid.aligned⟩
  have sums := checksum_toBytes_iff laid' inside apart written
  have aligned (h : 4 ∣ c) (d d' : Bytes) :
      Checksum.spilled d c ≡ Checksum.spilled d' c [MOD 65535] := by
    rw [Checksum.spilled_of_dvd h, Checksum.spilled_of_dvd h]
  refine ⟨c, laid.checksum, sums, fun h => ?_, fun behind =>
    exists_read_toBytes laid' inside apart behind written, fun data out' length same written' => ?_⟩
  · rw [sums]
    exact and_iff_left (aligned h ..)
  · have files := toBytes_eq_toBytes_iff laid' inside apart length same written written'
    exact ⟨files, fun h => files.2 (aligned h ..)⟩

end

/-- The checksum of the short image stands at 152. -/
theorem checksum_shortImage {image : Image} (found : ofFile "i" shortImage = .ok image) :
    image.checksum = 152 := by
  have here : (match ofFile "i" shortImage with
    | .ok m => decide (m.checksum = 152)
    | .error _ => false) = true := by decide +kernel
  rw [found] at here
  exact of_decide_eq_true here

/-- The short image, signed by the short key and written, has the checksum that stands in it. -/
theorem checksum_written_shortImage : ∃ image s out w₁,
    load "i" (surroundingsWith shortImage) = (.ok image, w₁) ∧
    (∃ c w', c.IsRead ∧ Signature.build (Signature.shortIdentity c) (.compute .sha256 [])
      Signature.noSurroundings = (.ok s, w')) ∧
    (image.append (.decoded s)).toBytes = .ok out ∧
    Checksum.checksum out = .ok (numberIn out 152 4) := by
  obtain ⟨image, c, s, w', regions, out, found, read, built, valid, written, headers, -, -⟩ :=
    exists_of_stands stands_shortImage
  obtain ⟨w₁, ran⟩ := (exists_load_iff (read_surroundingsWith shortImage)).2 found
  have place := checksum_shortImage found
  obtain ⟨c', checksum, -, aligned, -, -⟩ := checksum_written ran valid written
  obtain rfl : c' = 152 := by omega
  exact ⟨image, s, out, w₁, ran, ⟨c, w', read, built⟩, written,
    (aligned (by decide)).2 (headers.sealed out written)⟩

end Image

end ImageSigning
