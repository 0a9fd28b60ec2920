import ImageSigning.Proofs.Bytes
import ImageSigning.Proofs.Der.Header
import ImageSigning.Proofs.Der.Order

/-!
# The members of a SET OF in order

The rule for the members of a SET OF speaks of single octets: of two encodings the one stands first whose
octet is less at the first place where they differ, the shorter one followed by zeros (`Below`). Comparing
as numbers is comparing by that rule, so sorting obeys it, and as insertion sort it is stable.

Encodings that differ only in zeros behind the one of them compare equal and keep the order in which they
were given. Whole elements never do: the header of the shorter one says where it ends, and the longer one
begins with the same header. So the order of whole elements does not depend on how they are given.

* **`compareOctets_eq_lt_iff`**, **`compareOctets_eq_eq_iff`** — the comparison is the rule.
* **`filter_ordered`** — members that compare equal stay in the order in which they were given.
* **`IsWhole.eq_of_same`** — whole elements that compare equal are the same.
* **`ordered_of_perm`** — whole elements are sorted the same however they are given.
* **`ordered_spec`** — all of it.
-/

namespace ImageSigning.Der

open Bytes

/-! ## The comparison, octet by octet -/

/-- Whether two encodings have the same octets, zeros standing behind the shorter one. -/
def Same (x y : Bytes) : Prop := ∀ n, x.octetAt n = y.octetAt n

/-- Whether the first encoding has the lesser octet at the first place where the two differ, zeros standing
behind the shorter one. -/
def Below (x y : Bytes) : Prop :=
  ∃ n, (∀ i < n, x.octetAt i = y.octetAt i) ∧ x.octetAt n < y.octetAt n

variable {x y : Bytes}

/-- Behind the first octet, whether there is one or a zero stands for it. -/
theorem octetAt_succ (x : Bytes) (n : Nat) : x.octetAt (n + 1) = octetAt x.tail n := by
  cases x with
  | nil => rfl
  | cons a x => exact octetAt_cons_succ a x n

/-- Members are the same in order if their first octets are and the others are. -/
theorem same_step : Same x y ↔ x.octetAt 0 = y.octetAt 0 ∧ Same x.tail y.tail := by
  constructor
  · intro same
    refine ⟨same 0, fun n => ?_⟩
    rw [← octetAt_succ, ← octetAt_succ]
    exact same (n + 1)
  · rintro ⟨first, rest⟩ n
    cases n with
    | zero => exact first
    | succ n =>
      rw [octetAt_succ, octetAt_succ]
      exact rest n

/-- A member is below another by its first octet, or by the others if the first are the same. -/
theorem below_step : Below x y ↔
    x.octetAt 0 < y.octetAt 0 ∨ (x.octetAt 0 = y.octetAt 0 ∧ Below x.tail y.tail) := by
  constructor
  · rintro ⟨n, same, less⟩
    cases n with
    | zero => exact .inl less
    | succ n =>
      refine .inr ⟨same 0 (Nat.succ_pos n), n, fun i small => ?_, ?_⟩
      · rw [← octetAt_succ, ← octetAt_succ]
        exact same (i + 1) (Nat.succ_lt_succ small)
      · rwa [← octetAt_succ, ← octetAt_succ]
  · rintro (less | ⟨first, n, same, less⟩)
    · exact ⟨0, nofun, less⟩
    · refine ⟨n + 1, fun i small => ?_, by rwa [octetAt_succ, octetAt_succ]⟩
      cases i with
      | zero => exact first
      | succ i =>
        rw [octetAt_succ, octetAt_succ]
        exact same i (Nat.lt_of_succ_lt_succ small)

/-- The first octets decide, unless they are the same; a zero stands for one that is not there. -/
theorem compareOctets_step (x y : Bytes) : compareOctets x y =
    if x.octetAt 0 = y.octetAt 0 then compareOctets x.tail y.tail
    else if x.octetAt 0 < y.octetAt 0 then .lt else .gt := by
  match x, y with
  | [], [] => rfl
  | [], b :: y =>
    change (if (b :: y).all (· = 0) then Ordering.eq else .lt)
      = if 0 = b then (if y.all (· = 0) then Ordering.eq else .lt) else if 0 < b then .lt else .gt
    by_cases zero : 0 = b
    · subst zero
      simp
    · have positive : 0 < b := UInt8.pos_iff_ne_zero.2 fun here => zero here.symm
      simp [zero, positive, Ne.symm zero]
  | a :: x, [] =>
    change (if a = 0 then compareOctets x [] else Ordering.gt)
      = if a = 0 then compareOctets x [] else if a < 0 then .lt else .gt
    rw [if_neg (UInt8.not_lt_zero (a := a))]
  | a :: x, b :: y => rfl

/-- The comparison is the rule, in both of its answers. -/
theorem compareOctets_spec (x y : Bytes) :
    (compareOctets x y = .lt ↔ Below x y) ∧ (compareOctets x y = .eq ↔ Same x y) := by
  -- both encodings lose their first octets together until there are none
  obtain ⟨n, hx, hy⟩ : ∃ n, x.length ≤ n ∧ y.length ≤ n :=
    ⟨max x.length y.length, Nat.le_max_left .., Nat.le_max_right ..⟩
  induction n generalizing x y with
  | zero =>
    obtain rfl := List.length_eq_zero_iff.1 (Nat.le_zero.1 hx)
    obtain rfl := List.length_eq_zero_iff.1 (Nat.le_zero.1 hy)
    refine ⟨⟨nofun, ?_⟩, ⟨fun _ _ => rfl, fun _ => rfl⟩⟩
    rintro ⟨n, -, less⟩
    exact (UInt8.lt_irrefl _ less).elim
  | succ n ih =>
    obtain ⟨below, same⟩ := ih x.tail y.tail (by rw [List.length_tail]; omega)
      (by rw [List.length_tail]; omega)
    rw [compareOctets_step, below_step, same_step, ← below, ← same]
    split_ifs with first less
    · simp [first]
    · simp [less, first]
    · simp [less, first]

/-- The comparison says less exactly for a member that is below. -/
theorem compareOctets_eq_lt_iff : compareOctets x y = .lt ↔ Below x y := (compareOctets_spec x y).1

/-- The comparison says equal exactly for members that are the same in order. -/
theorem compareOctets_eq_eq_iff : compareOctets x y = .eq ↔ Same x y := (compareOctets_spec x y).2

/-- Comparing the other way round says the opposite. -/
theorem compareOctets_swap (x y : Bytes) : (compareOctets x y).swap = compareOctets y x := by
  have hx := Nat.le_max_left x.length y.length
  have hy := Nat.le_max_right x.length y.length
  rw [compareOctets_eq hx hy, compareOctets_eq hy hx, Nat.compare_swap]

/-- An encoding may stand before another unless that one is below it. -/
theorem precedes_iff_not_below : Precedes x y ↔ ¬ Below y x := by
  rw [← compareOctets_eq_lt_iff, ← compareOctets_swap]
  unfold Precedes precedes
  cases compareOctets x y <;> decide

/-- Of two members that are the same in order, either may stand first. -/
theorem precedes_of_same (h : Same x y) : Precedes x y := by
  unfold Precedes precedes
  rw [compareOctets_eq_eq_iff.2 h]
  rfl

/-- Encodings that may stand either way are the same, but for zeros behind one of them. -/
theorem same_of_precedes (hxy : Precedes x y) (hyx : Precedes y x) : Same x y := by
  rw [← compareOctets_eq_eq_iff]
  unfold Precedes precedes at hxy hyx
  rw [← compareOctets_swap] at hyx
  revert hxy hyx
  cases compareOctets x y <;> decide

/-! ## Stability -/

/-- Members that compare equal stay in the order in which they were given. -/
theorem filter_ordered (x : Bytes) (members : List Bytes) :
    ((ordered members).filter fun y => compareOctets x y = .eq)
      = members.filter fun y => compareOctets x y = .eq := by
  have tied : (members.filter fun y => compareOctets x y = .eq).Pairwise Precedes := by
    refine List.pairwise_of_forall_mem_list fun y hy z hz => precedes_of_same fun n => ?_
    have first := compareOctets_eq_eq_iff.1 (of_decide_eq_true (List.mem_filter.1 hy).2)
    have second := compareOctets_eq_eq_iff.1 (of_decide_eq_true (List.mem_filter.1 hz).2)
    exact (first n).symm.trans (second n)
  -- what is in order stays a part of the list, and sorting loses none of it
  have kept : (members.filter fun y => compareOctets x y = .eq).Sublist (ordered members) := by
    rw [ordered_eq_insertionSort]
    exact List.sublist_insertionSort tied List.filter_sublist
  have inside := kept.filter fun y => compareOctets x y = .eq
  rw [List.filter_filter] at inside
  simp only [Bool.and_self] at inside
  refine (inside.eq_of_length ?_).symm
  exact ((ordered_perm members).filter _).length_eq.symm

/-! ## Whole elements -/

/-- Octets that are a header with the content that it declares. -/
def IsWhole (b : Bytes) : Prop :=
  ∃ header content, IsHeader header content.length ∧ b = header ++ content

/-- A whole element is as long as its header says, whatever follows it. -/
theorem IsWhole.elementLength? (h : IsWhole x) (r : Bytes) :
    elementLength? (x ++ r) = some x.length := by
  obtain ⟨header, content, isHeader, rfl⟩ := h
  exact isHeader.elementLength? r

/-- Octets of the same length are the same if each of them is. -/
theorem Same.eq_of_length (same : Same x y) (h : x.length = y.length) : x = y := by
  refine List.ext_getElem h fun n here there => ?_
  have octet := same n
  simpa [octetAt, here, there] using octet

/-- Zeros behind an encoding change none of its octets. -/
theorem same_append_zeros (x : Bytes) (k : Nat) : Same (x ++ zeros k) x := octetAt_append_zeros x k

/-- Whole elements that compare equal are the same: the longer one is the shorter one with zeros behind it,
and those are no part of an element. -/
theorem IsWhole.eq_of_same (hx : IsWhole x) (hy : IsWhole y) (same : Same x y) : x = y := by
  have shorter {x y : Bytes} (hx : IsWhole x) (hy : IsWhole y) (same : Same x y)
      (h : x.length ≤ y.length) : x = y := by
    have filled : x ++ zeros (y.length - x.length) = y := by
      refine Same.eq_of_length (fun n => (same_append_zeros x _ n).trans (same n)) ?_
      rw [List.length_append, length_zeros]
      omega
    have extent := hx.elementLength? (zeros (y.length - x.length))
    have extent' := hy.elementLength? []
    rw [List.append_nil] at extent'
    rw [filled, extent', Option.some.injEq] at extent
    exact same.eq_of_length extent.symm
  rcases Nat.le_total x.length y.length with h | h
  · exact shorter hx hy same h
  · exact (shorter hy hx (fun n => (same n).symm) h).symm

/-- Whole elements are sorted the same however they are given. -/
theorem ordered_of_perm {members members' : List Bytes} (whole : ∀ x ∈ members, IsWhole x)
    (h : members'.Perm members) : ordered members' = ordered members := by
  have sorted : (ordered members').Perm (ordered members) :=
    (ordered_perm members').trans (h.trans (ordered_perm members).symm)
  refine sorted.eq_of_pairwise (fun x y mx my hxy hyx => ?_) (pairwise_ordered members')
    (pairwise_ordered members)
  have given {z : Bytes} (m : z ∈ ordered members) : IsWhole z :=
    whole z ((ordered_perm members).mem_iff.1 m)
  exact (given (sorted.mem_iff.1 mx)).eq_of_same (given my) (same_of_precedes hxy hyx)

/-! ## The order of a SET OF -/

/-- **The order of a SET OF.** Sorting rearranges the members, leaves none behind one that it is below, keeps
members that compare equal as they were given, and changes nothing a second time. Whole elements are
sorted the same however they are given, since none of them compares equal with another one. -/
theorem ordered_spec :
    (∀ members, (ordered members).Perm members ∧
      (ordered members).Pairwise (fun x y => ¬ Below y x) ∧
      (∀ x, ((ordered members).filter fun y => compareOctets x y = .eq)
        = members.filter fun y => compareOctets x y = .eq) ∧
      ordered (ordered members) = ordered members) ∧
    (∀ x y, compareOctets x y = .eq ↔ Same x y) ∧
    (∀ x y, IsWhole x → IsWhole y → Same x y → x = y) ∧
    ∀ members members', (∀ x ∈ members, IsWhole x) → members'.Perm members →
      ordered members' = ordered members := by
  refine ⟨fun members => ⟨ordered_perm members, ?_, fun x => filter_ordered x members,
    ordered_ordered members⟩, fun _ _ => compareOctets_eq_eq_iff,
    fun x y hx hy same => hx.eq_of_same hy same, fun _ _ whole h => ordered_of_perm whole h⟩
  exact (pairwise_ordered members).imp precedes_iff_not_below.1

/-- Three elements, one of them with a length in more octets than it needs, and one that begins as another
does and is longer. -/
theorem ordered_spec_threeElements :
    ordered [[0x04, 0x81, 0x01, 0xff], [0x04, 0x01, 0x00], [0x04, 0x02, 0x00, 0x00]]
      = ordered [[0x04, 0x02, 0x00, 0x00], [0x04, 0x81, 0x01, 0xff], [0x04, 0x01, 0x00]] := by
  refine ordered_spec.2.2.2 _ _ (fun x m => ?_) (by decide)
  simp only [List.mem_cons, List.not_mem_nil, or_false] at m
  rcases m with rfl | rfl | rfl
  · exact ⟨[0x04, 0x02], [0x00, 0x00], IsHeader.short_of_lt 0x04 (by decide), rfl⟩
  · have header : IsHeader [0x04, 0x81, 0x01] 1 :=
      @IsHeader.long 0x04 0x81 [0x01] (by decide) (by decide)
    exact ⟨[0x04, 0x81, 0x01], [0xff], header, rfl⟩
  · exact ⟨[0x04, 0x01], [0x00], IsHeader.short_of_lt 0x04 (by decide), rfl⟩

/-- Encodings that are no whole elements may differ in zeros alone, and then stay as they were given. -/
example : ordered [[1], [1, 0]] = [[1], [1, 0]] ∧ ordered [[1, 0], [1]] = [[1, 0], [1]] := by decide

end ImageSigning.Der
