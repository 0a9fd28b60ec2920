/-!
# Texts in parts

A text is parted at a character that separates: the parts of a path between slashes, the arcs of an
identifier between points. A text without the separator is its only part, and separators side by side
have an empty part between them.

* `not_mem_of_mem_parts`: no part holds the separator.
* `parts_join`: parting undoes joining; `intercalate_partsOf`: joining undoes parting.
-/

namespace ImageSigning.Text

/-- The characters before the first separator, and the parts behind it. -/
def cut (separator : Char) : List Char → List Char × List (List Char)
  | [] => ([], [])
  | c :: r =>
    let (first, others) := cut separator r
    if c = separator then ([], first :: others) else (c :: first, others)

/-- The parts of characters between separators. -/
def partsOf (separator : Char) (cs : List Char) : List (List Char) :=
  (cut separator cs).1 :: (cut separator cs).2

/-- The parts of a text between separators. -/
def parts (separator : Char) (s : String) : List String :=
  (partsOf separator s.toList).map String.ofList

/-- Parts as one text, with separators between them. -/
def join (separator : Char) (parts : List String) : String :=
  String.ofList ([separator].intercalate (parts.map (·.toList)))

/-- Nothing has one empty part. -/
@[simp] theorem partsOf_nil (separator : Char) : partsOf separator [] = [[]] := rfl

/-- In front of a separator there is an empty part. -/
theorem partsOf_cons_self (separator : Char) (cs : List Char) :
    partsOf separator (separator :: cs) = [] :: partsOf separator cs := by
  simp [partsOf, cut]

/-- Any other character belongs to the first part. -/
theorem cut_cons_of_ne {separator c : Char} (cs : List Char) (h : c ≠ separator) :
    cut separator (c :: cs) = (c :: (cut separator cs).1, (cut separator cs).2) := by
  simp [cut, h]

/-- A beginning without separators belongs to the first part. -/
theorem cut_append {separator : Char} {p : List Char} (cs : List Char) (h : separator ∉ p) :
    cut separator (p ++ cs) = (p ++ (cut separator cs).1, (cut separator cs).2) := by
  induction p with
  | nil => rfl
  | cons c p ih =>
    have here : c ≠ separator := fun eq => h (by simp [eq])
    have there : separator ∉ p := fun m => h (by simp [m])
    rw [List.cons_append, cut_cons_of_ne _ here, ih there]
    rfl

/-- Without separators there is one part. -/
theorem partsOf_eq_self {separator : Char} {p : List Char} (h : separator ∉ p) :
    partsOf separator p = [p] := by
  have whole := cut_append [] h
  rw [List.append_nil] at whole
  simp [partsOf, whole, cut]

/-- What stands before the first separator is the first part. -/
theorem partsOf_append_cons {separator : Char} {p : List Char} (cs : List Char)
    (h : separator ∉ p) :
    partsOf separator (p ++ separator :: cs) = p :: partsOf separator cs := by
  simp [partsOf, cut_append _ h, cut]

/-- No part of a list of characters holds the separator. -/
theorem not_mem_of_mem_partsOf {separator : Char} {cs p : List Char}
    (h : p ∈ partsOf separator cs) : separator ∉ p := by
  induction cs generalizing p with
  | nil => simp_all
  | cons c cs ih =>
    by_cases here : c = separator
    · subst here
      rw [partsOf_cons_self, List.mem_cons] at h
      rcases h with rfl | m
      · simp
      · exact ih m
    · simp only [partsOf, cut_cons_of_ne _ here, List.mem_cons] at h
      rcases h with rfl | m
      · simp only [List.mem_cons, not_or]
        exact ⟨fun eq => here eq.symm, ih (by simp [partsOf])⟩
      · exact ih (by simp [partsOf, m])

/-- No part holds the separator. -/
theorem not_mem_of_mem_parts {separator : Char} {s p : String} (h : p ∈ parts separator s) :
    separator ∉ p.toList := by
  obtain ⟨cs, m, rfl⟩ := List.mem_map.1 h
  rw [String.toList_ofList]
  exact not_mem_of_mem_partsOf m

/-- Parting a list of characters undoes joining. -/
theorem partsOf_intercalate {separator : Char} {p : List Char} {ps : List (List Char)}
    (h : ∀ q ∈ p :: ps, separator ∉ q) :
    partsOf separator ([separator].intercalate (p :: ps)) = p :: ps := by
  induction ps generalizing p with
  | nil => simp [List.intercalate, partsOf_eq_self (h p (by simp))]
  | cons q ps ih =>
    have rest := ih (p := q) fun r m => h r (by simp_all)
    simp only [List.intercalate, List.intersperse_cons_cons, List.flatten_cons] at rest ⊢
    rw [List.singleton_append, partsOf_append_cons _ (h p (by simp)), rest]

/-- Joining undoes parting. -/
theorem intercalate_partsOf (separator : Char) (cs : List Char) :
    [separator].intercalate (partsOf separator cs) = cs := by
  induction cs with
  | nil => rfl
  | cons c cs ih =>
    by_cases here : c = separator
    · subst here
      rw [partsOf_cons_self, partsOf, List.intercalate_cons_cons, ← partsOf, ih]
      rfl
    · rcases divided : cut separator cs with ⟨first, others⟩
      simp only [partsOf, divided, cut_cons_of_ne cs here] at ih ⊢
      rw [← ih]
      cases others <;> simp [List.intercalate]

/-- Parting undoes joining. -/
theorem parts_join {separator : Char} {p : String} {ps : List String}
    (h : ∀ q ∈ p :: ps, separator ∉ q.toList) :
    parts separator (join separator (p :: ps)) = p :: ps := by
  have apart := @partsOf_intercalate separator p.toList (ps.map (·.toList)) (by simpa using h)
  simp only [parts, join, String.toList_ofList, List.map_cons, apart, List.map_map]
  simp [Function.comp_def]

end ImageSigning.Text
