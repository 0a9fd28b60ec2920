import ImageSigning.Proofs.Der.Order
import ImageSigning.Proofs.Der.Reading

/-!
# A set of elements has one order

Two encodings that each may stand before the other are the same up to zeros at the end. An element
says where it ends, so two elements that are the same up to zeros are the same. Elements therefore
have one order only, and the octets of a set do not depend on how its members were given.

* **`IsSingle`** — octets that are one element, whatever follows them.
* **`eq_of_precedes`** — elements that may stand before each other are equal.
* **`ordered_eq_of_perm`** — sorting elements gives the same list however they are given.
-/

namespace ImageSigning.Der

/-- Octets that are one element, whatever follows them. -/
def IsSingle (b : Bytes) : Prop := ∃ e, Tlv.Denotes .basic b e

/-- Octets that denote an element are a single one. -/
theorem isSingle_of_denotes {rules : Rules} {b : Bytes} {e : Tlv} (h : Tlv.Denotes rules b e) :
    IsSingle b := ⟨e, h.basic⟩

/-- Encodings that compare as equal are the same up to zeros. -/
theorem exists_zeros_of_compareOctets {x y : Bytes} (h : compareOctets x y = .eq) :
    ∃ m n, x ++ Bytes.zeros m = y ++ Bytes.zeros n := by
  fun_induction compareOctets x y with
  | case1 s zeros =>
    refine ⟨s.length, 0, ?_⟩
    have all : s = Bytes.zeros s.length :=
      List.eq_replicate_of_mem fun x m => by simpa using List.all_eq_true.1 zeros x m
    simp only [List.nil_append, Bytes.zeros, List.replicate_zero, List.append_nil]
    exact all.symm
  | case2 => cases h
  | case3 r ih =>
    obtain ⟨m, n, same⟩ := ih h
    refine ⟨m, n + 1, ?_⟩
    rw [List.cons_append, same]
    rfl
  | case4 => cases h
  | case5 x r s ih =>
    obtain ⟨m, n, same⟩ := ih h
    refine ⟨m, n, ?_⟩
    rw [List.cons_append, List.cons_append, same]
  | case6 => cases h
  | case7 => cases h

/-- Elements that are the same up to zeros are the same: each ends where it says. -/
theorem IsSingle.eq_of_zeros {x y : Bytes} {m n : Nat} (hx : IsSingle x) (hy : IsSingle y)
    (h : x ++ Bytes.zeros m = y ++ Bytes.zeros n) : x = y := by
  obtain ⟨e, hereX⟩ := hx
  obtain ⟨f, hereY⟩ := hy
  have both : some (e, Bytes.zeros m) = some (f, Bytes.zeros n) := by
    rw [← hereX (Bytes.zeros m), h]
    exact hereY (Bytes.zeros n)
  obtain ⟨-, same⟩ := Prod.mk.inj (Option.some.inj both)
  rw [same] at h
  exact List.append_cancel_right h

/-- Elements that may stand before each other are equal. -/
theorem eq_of_precedes {x y : Bytes} (hx : IsSingle x) (hy : IsSingle y) (h : Precedes x y)
    (h' : Precedes y x) : x = y := by
  have fitsX := Nat.le_max_left x.length y.length
  have fitsY := Nat.le_max_right x.length y.length
  have same : numberAt (max x.length y.length) x = numberAt (max x.length y.length) y :=
    Nat.le_antisymm ((precedes_iff fitsX fitsY).1 h) ((precedes_iff fitsY fitsX).1 h')
  have equal : compareOctets x y = .eq := by
    rw [compareOctets_eq fitsX fitsY, same]
    exact Nat.compare_eq_eq.2 rfl
  obtain ⟨m, n, zeros⟩ := exists_zeros_of_compareOctets equal
  exact hx.eq_of_zeros hy zeros

/-- Sorting elements gives the same list however they are given. -/
theorem ordered_eq_of_perm {l l' : List Bytes} (single : ∀ b ∈ l, IsSingle b) (h : l.Perm l') :
    ordered l = ordered l' := by
  have rearranged : (ordered l).Perm (ordered l') :=
    (ordered_perm l).trans (h.trans (ordered_perm l').symm)
  refine List.Perm.eq_of_pairwise ?_ (pairwise_ordered l) (pairwise_ordered l') rearranged
  intro x y hx hy before after
  have inX : x ∈ l := (ordered_perm l).mem_iff.1 hx
  have inY : y ∈ l := h.mem_iff.2 ((ordered_perm l').mem_iff.1 hy)
  exact eq_of_precedes (single x inX) (single y inY) before after

/-- The octets of a set do not depend on how its members are given. -/
theorem setOf_eq_of_perm {identifier : UInt8} {l l' : List Bytes}
    (single : ∀ b ∈ l, IsSingle b) (h : l.Perm l') : setOf identifier l = setOf identifier l' := by
  rw [setOf, setOf, ordered_eq_of_perm single h]

end ImageSigning.Der
