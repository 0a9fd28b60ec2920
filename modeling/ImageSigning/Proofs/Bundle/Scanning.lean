import ImageSigning.Proofs.Bundle

/-!
# Scanning for lines

A scan takes the line that ends first and goes on behind it. No line stands in another one, so this is
the line that begins first, too, and what follows it holds every line that follows any other occurrence.
That is why a scan finds as many lines as can stand one behind the other, though lines may share their
hyphens.

* **`findLine?_eq_some_iff`** — the line that is found, and that nothing is found before it.
* **`IsFirst.suffix`** — what follows any line follows the first one.
* **`markers_le_of_suffix`** — octets in front take nothing away from what is counted.
* **`opens_iff`** — what is counted is how many lines stand one behind the other, at most.
-/

namespace ImageSigning.Bundle

section
variable {lines : List Bytes} {a b c x y l m : Bytes}

/-- None of the lines stands in the octets. -/
def Lacks (lines : List Bytes) (b : Bytes) : Prop := ∀ l ∈ lines, ¬ l <:+: b

/-- One of the lines, behind octets with which no line ends before it does. -/
def IsFirst (lines : List Bytes) (before line : Bytes) : Prop :=
  line ∈ lines ∧ Lacks lines (before ++ line.dropLast)

/-- No line is empty, and none stands in another one. -/
structure AreApart (lines : List Bytes) : Prop where
  filled : [] ∉ lines
  alone : ∀ l ∈ lines, ∀ m ∈ lines, l <:+: m → l = m

/-- No opening line begins inside another. -/
theorem areApart_openings : AreApart openings := ⟨by decide, by decide⟩

/-- No closing line begins inside another. -/
theorem areApart_closings : AreApart closings := ⟨by decide, by decide⟩

/-! ## The first line -/

/-- What follows any line follows the first one. -/
theorem IsFirst.suffix (first : IsFirst lines x l) (other : m ∈ lines)
    (same : x ++ l ++ a = y ++ m ++ c) : c <:+ a := by
  have ends : c <:+ x ++ l ++ a := same ▸ List.suffix_append (y ++ m) c
  refine List.suffix_of_suffix_length_le ends (List.suffix_append (x ++ l) a) ?_
  by_contra shorter
  have sizes := congrArg List.length same
  simp only [List.length_append] at sizes
  -- otherwise the other line would end before the first one does
  have start : y ++ m <+: x ++ l.dropLast := by
    refine List.prefix_of_prefix_length_le (same ▸ List.prefix_append (y ++ m) c) ?_ ?_
    · rw [List.append_assoc]
      exact (List.prefix_append_right_inj x).2
        ((List.dropLast_prefix l).trans (List.prefix_append l a))
    · simp only [List.length_append, List.length_dropLast]
      omega
  exact first.2 m other ((List.suffix_append y m).isInfix.trans start.isInfix)

/-- There is at most one first line. -/
theorem IsFirst.unique (apart : AreApart lines) (first : IsFirst lines x l)
    (first' : IsFirst lines y m) (same : x ++ l ++ a = y ++ m ++ c) : x = y ∧ l = m ∧ a = c := by
  have behind : a = c := (first'.suffix first.1 same.symm).eq_of_length_le
    (first.suffix first'.1 same).length_le
  subst behind
  have front : x ++ l = y ++ m := List.append_cancel_right same
  have line : l = m := by
    rcases List.suffix_or_suffix_of_suffix (List.suffix_append x l)
      (front ▸ List.suffix_append y m) with here | here
    · exact apart.alone l first.1 m first'.1 here.isInfix
    · exact (apart.alone m first'.1 l first.1 here.isInfix).symm
  subst line
  exact ⟨List.append_cancel_right front, rfl, rfl⟩

/-- A line that octets begin with is the first in them. -/
theorem isFirst_nil (apart : AreApart lines) (m : l ∈ lines) : IsFirst lines [] l := by
  refine ⟨m, ?_⟩
  intro l' m' here
  have inside : l' <:+: l := here.trans (List.dropLast_prefix l).isInfix
  obtain rfl := apart.alone l' m' l m inside
  have size := here.length_le
  have filled : l' ≠ [] := fun empty => apart.filled (empty ▸ m)
  have long := List.length_pos_of_ne_nil filled
  rw [List.nil_append, List.length_dropLast] at size
  omega

/-- What is found is the first line, and there is none if none is found. -/
theorem findLine?_spec (apart : AreApart lines) (b : Bytes) :
    match findLine? lines b with
    | none => Lacks lines b
    | some (before, line, after) => b = before ++ line ++ after ∧ IsFirst lines before line := by
  induction b with
  | nil =>
    intro l m here
    exact apart.filled (List.infix_nil.1 here ▸ m)
  | cons z r ih =>
    rcases found : lines.find? (·.isPrefixOf (z :: r)) with _ | line
    · -- nothing begins here
      have noneStarts : ∀ l ∈ lines, ¬ l <+: z :: r := by
        intro l m starts
        exact List.find?_eq_none.1 found l m (List.isPrefixOf_iff_prefix.2 starts)
      rw [findLine?, found]
      dsimp only
      rcases there : findLine? lines r with _ | ⟨before, line, after⟩
      · rw [there] at ih
        intro l m here
        rcases List.infix_cons_iff.1 here with starts | inside
        · exact noneStarts l m starts
        · exact ih l m inside
      · rw [there] at ih
        obtain ⟨rfl, m, lacks⟩ := ih
        refine ⟨rfl, m, ?_⟩
        intro l' m' here
        rcases List.infix_cons_iff.1 here with starts | inside
        · refine noneStarts l' m' (starts.trans ((List.prefix_cons_inj z).2 ?_))
          rw [List.append_assoc]
          exact (List.prefix_append_right_inj before).2
            ((List.dropLast_prefix line).trans (List.prefix_append line after))
        · exact lacks l' m' inside
    · have m := List.mem_of_find?_eq_some found
      have holds := List.find?_some found
      have starts : line <+: z :: r := List.isPrefixOf_iff_prefix.1 holds
      rw [findLine?, found]
      dsimp only
      refine ⟨?_, isFirst_nil apart m⟩
      rw [List.nil_append]
      exact (List.prefix_iff_eq_append.1 starts).symm

/-- A line is not found exactly if none is there. -/
theorem findLine?_eq_none_iff (apart : AreApart lines) :
    findLine? lines b = none ↔ Lacks lines b := by
  have spec := findLine?_spec apart b
  rcases found : findLine? lines b with _ | ⟨before, line, after⟩
  · rw [found] at spec
    exact ⟨fun _ => spec, fun _ => rfl⟩
  · rw [found] at spec
    obtain ⟨rfl, first⟩ := spec
    constructor
    · intro impossible
      cases impossible
    · intro lacks
      exact (lacks line first.1 (List.infix_append before line after)).elim

/-- The line that is found is the first, and what is before and behind it makes up the text with it. -/
theorem findLine?_eq_some_iff (apart : AreApart lines) :
    findLine? lines b = some (x, l, a) ↔ b = x ++ l ++ a ∧ IsFirst lines x l := by
  have spec := findLine?_spec apart b
  rcases found : findLine? lines b with _ | ⟨before, line, after⟩
  · rw [found] at spec
    constructor
    · intro something
      cases something
    · rintro ⟨rfl, first⟩
      exact (spec l first.1 (List.infix_append x l a)).elim
  · rw [found] at spec
    obtain ⟨whole, first⟩ := spec
    constructor
    · intro same
      cases same
      exact ⟨whole, first⟩
    · rintro ⟨whole', first'⟩
      obtain ⟨rfl, rfl, rfl⟩ := first.unique apart first' (whole.symm.trans whole')
      rfl

/-- Octets hold none of the lines, or there is a first one. -/
theorem lacks_or_exists_isFirst (apart : AreApart lines) (b : Bytes) :
    Lacks lines b ∨ ∃ x l a, b = x ++ l ++ a ∧ IsFirst lines x l := by
  have spec := findLine?_spec apart b
  rcases found : findLine? lines b with _ | ⟨before, line, after⟩
  · rw [found] at spec
    exact .inl spec
  · rw [found] at spec
    exact .inr ⟨before, line, after, spec⟩

end

/-! ## Counting and cutting -/

section
variable {a b s before opening body closing inside after : Bytes}

/-- Without opening lines there are no markers. -/
theorem markers_of_lacks (h : Lacks openings b) : markers b = 0 := by
  rw [markers_eq, (findLine?_eq_none_iff areApart_openings).2 h]

/-- The first opening line is one marker, and those behind it are the others. -/
theorem markers_of_isFirst (h : IsFirst openings before opening) :
    markers (before ++ opening ++ after) = markers after + 1 := by
  rw [markers_eq, (findLine?_eq_some_iff areApart_openings).2 ⟨rfl, h⟩]

/-- Without opening lines there are no blocks. -/
theorem blocks_of_lacks (h : Lacks openings b) : blocks b = [] := by
  rw [blocks_eq, (findLine?_eq_none_iff areApart_openings).2 h]

/-- An opening line behind which no line closes begins no block. -/
theorem blocks_of_unclosed (h : IsFirst openings before opening) (unclosed : Lacks closings inside) :
    blocks (before ++ opening ++ inside) = [] := by
  rw [blocks_eq, (findLine?_eq_some_iff areApart_openings).2 ⟨rfl, h⟩]
  dsimp only
  rw [(findLine?_eq_none_iff areApart_closings).2 unclosed]

/-- The first block reaches from the first opening line to the first closing line behind it. -/
theorem blocks_of_closed (h : IsFirst openings before opening) (closed : IsFirst closings body closing) :
    blocks (before ++ opening ++ (body ++ closing ++ after))
      = (opening ++ body ++ closing) :: blocks after := by
  rw [blocks_eq, (findLine?_eq_some_iff areApart_openings).2 ⟨rfl, h⟩]
  dsimp only
  rw [(findLine?_eq_some_iff areApart_closings).2 ⟨rfl, closed⟩]

/-- Octets in front take nothing away from what is counted. -/
theorem markers_le_of_suffix (h : s <:+ b) : markers s ≤ markers b := by
  induction size : b.length using Nat.strong_induction_on generalizing b s with
  | _ n ih =>
    rcases lacks_or_exists_isFirst areApart_openings s with lacks | ⟨y, m, c, rfl, first'⟩
    · rw [markers_of_lacks lacks]
      exact Nat.zero_le _
    · rcases lacks_or_exists_isFirst areApart_openings b with lacks | ⟨x, l, a, rfl, first⟩
      · exact (lacks m first'.1 ((List.infix_append y m c).trans h.isInfix)).elim
      · obtain ⟨p, same⟩ := h
        have behind : c <:+ a := first.suffix (y := p ++ y) first'.1 (by simpa using same.symm)
        rw [markers_of_isFirst first, markers_of_isFirst first']
        have shorter : a.length < n := by
          have long := length_pos_of_mem (.inl first.1)
          simp only [List.length_append] at size
          omega
        exact Nat.succ_le_succ (ih a.length shorter behind rfl)

/-- So many opening lines stand one behind the other, with anything before, between and after them. -/
inductive Opens : Nat → Bytes → Prop
  | zero (b : Bytes) : Opens 0 b
  | succ {n : Nat} {before opening after : Bytes} (m : opening ∈ openings) (rest : Opens n after) :
      Opens (n + 1) (before ++ opening ++ after)

/-- A text has the opening lines of each of its ends. -/
theorem Opens.of_suffix {n : Nat} (h : Opens n s) (part : s <:+ b) : Opens n b := by
  obtain ⟨p, rfl⟩ := part
  cases h with
  | zero => exact .zero _
  | succ m rest =>
    rw [← List.append_assoc, ← List.append_assoc]
    exact .succ m rest

/-- What is counted is how many opening lines stand one behind the other, at most. -/
theorem opens_iff {n : Nat} : Opens n b ↔ n ≤ markers b := by
  constructor
  · intro opens
    induction opens with
    | zero => exact Nat.zero_le _
    | @succ n before opening after m rest ih =>
      rcases lacks_or_exists_isFirst areApart_openings (before ++ opening ++ after)
        with lacks | ⟨x, l, a, same, first⟩
      · exact (lacks opening m (List.infix_append before opening after)).elim
      · have behind : after <:+ a := first.suffix m same.symm
        rw [same, markers_of_isFirst first]
        exact Nat.succ_le_succ (ih.trans (markers_le_of_suffix behind))
  · intro few
    induction n generalizing b with
    | zero => exact .zero b
    | succ n ih =>
      rcases lacks_or_exists_isFirst areApart_openings b with lacks | ⟨x, l, a, rfl, first⟩
      · rw [markers_of_lacks lacks] at few
        omega
      · rw [markers_of_isFirst first] at few
        exact .succ first.1 (ih (by omega))

/-- There is no marker exactly if there is no opening line. -/
theorem markers_eq_zero_iff : markers b = 0 ↔ Lacks openings b := by
  constructor
  · intro lacks l m here
    obtain ⟨x, a, rfl⟩ := here
    have one : Opens 1 (x ++ l ++ a) := .succ m (.zero a)
    have count := opens_iff.1 one
    omega
  · exact markers_of_lacks

/-- A block holds one opening line exactly if none stands behind that with which it begins. -/
theorem markers_block_iff (m : opening ∈ openings) :
    markers (opening ++ body ++ closing) = 1 ↔ Lacks openings (body ++ closing) := by
  have counted : markers (opening ++ body ++ closing) = markers (body ++ closing) + 1 := by
    have first := isFirst_nil areApart_openings m
    rw [← markers_of_isFirst first, List.nil_append, List.append_assoc]
  rw [counted, ← markers_eq_zero_iff]
  omega

end

end ImageSigning.Bundle
