import ImageSigning.Pem
import ImageSigning.Proofs.Outcome
import ImageSigning.Proofs.Text.Utf8
import Mathlib.Data.List.Chain

/-!
# Blocks that are written

What stands between the two lines of a written block, letters and padding of base64, holds no hyphen,
so the lines are found where they were written. The letters may be broken into lines anywhere and the
lines may end in either way, as long as none is empty: an empty line would end headers. In front of the
block there may be lines of text that announce no block.

* **`eq_of_splitAtRun?`**, **`splitAtRun?_append`** — where a run is found.
* **`IsBody`** — what may stand between the lines; **`isBody_lines`** — lines of letters may.
* **`IsIntroduction`** — what may stand in front.
* **`IsBody.readAll_eq`** — a written block is read as its label and its octets.
* **`length_lt_of_mem_readAll`** — a block is shorter than the text that it was read from.
-/

namespace ImageSigning

/-! ## Letters of base64 -/

/-- A character of ASCII that is no blank and no hyphen. -/
def Pem.isPlain (x : UInt8) : Bool :=
  x < 0x80 && x != 45 && !isSpace x && !isSpacing (Char.ofNat x.toNat)

namespace Base64

/-- Letters of base64 are plain. -/
theorem isPlain_letter : ∀ n < 64, Pem.isPlain (letter n) = true := by decide

/-- All that base64 is written with is plain. -/
theorem isPlain_of_mem_encode {b : Bytes} {x : UInt8} (h : x ∈ encode b) :
    Pem.isPlain x = true := by
  have padding : Pem.isPlain 61 = true := by decide
  fun_induction encode b with
  | case1 => simp at h
  | case2 a =>
    have := a.toNat_lt
    simp only [List.mem_cons, List.not_mem_nil, or_false] at h
    rcases h with rfl | rfl | rfl | rfl
    · exact isPlain_letter _ (by omega)
    · exact isPlain_letter _ (by omega)
    · exact padding
    · exact padding
  | case3 a b =>
    have := a.toNat_lt
    have := b.toNat_lt
    simp only [List.mem_cons, List.not_mem_nil, or_false] at h
    rcases h with rfl | rfl | rfl | rfl
    · exact isPlain_letter _ (by omega)
    · exact isPlain_letter _ (by omega)
    · exact isPlain_letter _ (by omega)
    · exact padding
  | case4 a b c r ih =>
    have := a.toNat_lt
    have := b.toNat_lt
    have := c.toNat_lt
    simp only [List.mem_cons] at h
    rcases h with rfl | rfl | rfl | rfl | h
    · exact isPlain_letter _ (by omega)
    · exact isPlain_letter _ (by omega)
    · exact isPlain_letter _ (by omega)
    · exact isPlain_letter _ (by omega)
    · exact ih h

/-- Octets are written as something. -/
theorem encode_ne_nil {b : Bytes} (h : b ≠ []) : encode b ≠ [] := by
  fun_cases encode b with
  | case1 => exact (h rfl).elim
  | case2 => simp
  | case3 => simp
  | case4 => simp

/-- Text that stands for octets is ASCII, and no shorter than they are. -/
theorem ascii_of_decode? {text b : Bytes} (h : decode? text = some b) :
    (∀ x ∈ text, x < 0x80) ∧ b.length ≤ text.length := by
  have letter {x : UInt8} {n : Nat} (h : value? x = some n) : x < 0x80 := by
    have all : ∀ n < 256, (value? (UInt8.ofNat n)).isSome = true → UInt8.ofNat n < 0x80 := by
      decide +kernel
    have := all x.toNat x.toNat_lt
    rw [UInt8.ofNat_toNat, h] at this
    exact this rfl
  have padding : (61 : UInt8) < 0x80 := by decide
  fun_induction decode? text generalizing b with
  | case1 =>
    obtain rfl := Option.some.inj h
    simp
  | case2 a d =>
    simp only [Option.bind_eq_bind, Option.bind_eq_some_iff] at h
    obtain ⟨n, first, m, second, h⟩ := h
    split_ifs at h
    obtain rfl := Option.some.inj h
    simp [letter first, letter second, padding]
  | case3 a d e =>
    simp only [Option.bind_eq_bind, Option.bind_eq_some_iff] at h
    obtain ⟨n, first, m, second, k, third, h⟩ := h
    split_ifs at h
    obtain rfl := Option.some.inj h
    simp [letter first, letter second, letter third, padding]
  | case4 a d e f r _ _ ih =>
    simp only [Option.bind_eq_bind, Option.bind_eq_some_iff] at h
    obtain ⟨n, first, m, second, k, third, l, fourth, rest, tail, h⟩ := h
    obtain rfl := Option.some.inj h
    obtain ⟨ascii, fits⟩ := ih tail
    refine ⟨?_, by simp only [List.length_cons]; omega⟩
    simp only [List.forall_mem_cons]
    exact ⟨letter first, letter second, letter third, letter fourth, ascii⟩
  | case5 => cases h

end Base64

/-! ## Runs -/

namespace Pem

section
variable {p run before after : Bytes} {y : UInt8}

/-- What stands before and after a run, and the run between them, are all there is. -/
theorem eq_of_splitAtRun? {b : Bytes} (h : splitAtRun? run b = some (before, after)) :
    b = before ++ run ++ after := by
  induction b generalizing before with
  | nil =>
    rw [splitAtRun?] at h
    split_ifs at h with empty
    obtain ⟨rfl, rfl⟩ := Prod.mk.inj (Option.some.inj h)
    simpa using empty
  | cons x r ih =>
    rw [splitAtRun?] at h
    split_ifs at h with starts
    · obtain ⟨rfl, rfl⟩ := Prod.mk.inj (Option.some.inj h)
      rw [List.nil_append]
      exact List.prefix_iff_eq_append.1 (List.isPrefixOf_iff_prefix.1 starts) |>.symm
    · obtain ⟨⟨before', after'⟩, found, same⟩ := Option.map_eq_some_iff.1 h
      obtain ⟨rfl, rfl⟩ := Prod.mk.inj same
      rw [ih found]
      rfl

/-- A run that is not there is not found. -/
theorem splitAtRun?_eq_none {b : Bytes} (h : ¬ run <:+: b) : splitAtRun? run b = none := by
  rcases found : splitAtRun? run b with _ | ⟨before, after⟩
  · rfl
  · exact (h ⟨before, after, (eq_of_splitAtRun? found).symm⟩).elim

/-- A run is found behind octets in which it cannot begin. -/
theorem splitAtRun?_append (nonempty : run ≠ [])
    (h : ∀ t, t <:+ p → t ≠ [] → ¬ run <+: t ∧ ¬ t <+: run) :
    splitAtRun? run (p ++ (run ++ after)) = some (p, after) := by
  induction p with
  | nil =>
    obtain ⟨y, run, rfl⟩ := List.exists_cons_of_ne_nil nonempty
    have starts : (y :: run).isPrefixOf (y :: (run ++ after)) = true :=
      List.isPrefixOf_iff_prefix.2 (List.prefix_append (y :: run) after)
    simp only [List.nil_append, List.cons_append, splitAtRun?, starts, if_true]
    simp
  | cons x p ih =>
    have here : run.isPrefixOf (x :: (p ++ (run ++ after))) = false := by
      rw [Bool.eq_false_iff, ne_eq, List.isPrefixOf_iff_prefix]
      intro starts
      obtain ⟨long, short⟩ := h (x :: p) (List.suffix_refl _) (by simp)
      rcases List.prefix_or_prefix_of_prefix starts (List.prefix_append (x :: p) _) with inside | inside
      · exact long inside
      · exact short inside
    have there := ih fun t suffix => h t (suffix.trans (List.suffix_cons x p))
    rw [List.cons_append, splitAtRun?, here, there]
    rfl

/-- A run is found behind octets that do not hold its first one. -/
theorem splitAtRun?_append_of_not_mem (first : run.head? = some y) (h : y ∉ p) :
    splitAtRun? run (p ++ (run ++ after)) = some (p, after) := by
  obtain ⟨run, rfl⟩ := List.head?_eq_some_iff.1 first
  refine splitAtRun?_append (by simp) fun t suffix filled => ?_
  obtain ⟨x, t, rfl⟩ := List.exists_cons_of_ne_nil filled
  have other : x ≠ y := fun same => h (same ▸ suffix.subset List.mem_cons_self)
  constructor
  · exact fun starts => other (List.cons_prefix_cons.1 starts).1.symm
  · exact fun starts => other (List.cons_prefix_cons.1 starts).1

end

/-- The blocks of a text are the first and those behind it. -/
theorem captures_of_capture? {b rest : Bytes} {c : Capture} (h : capture? b = some (c, rest)) :
    captures b = c :: captures rest := by
  rw [captures]
  split
  · rename_i missed
    rw [h] at missed
    cases missed
  · rename_i found
    rw [h] at found
    obtain ⟨rfl, rfl⟩ := Prod.mk.inj (Option.some.inj found)
    rfl

/-- Where no block is found there are none. -/
theorem captures_eq_nil {b : Bytes} (h : capture? b = none) : captures b = [] := by
  rw [captures]
  split
  · rfl
  · rename_i found
    rw [h] at found
    cases found

/-! ## What is written -/

/-- The line that opens a block of a certificate. -/
def openingLine : Bytes := Bytes.ofAscii "-----BEGIN CERTIFICATE-----"

/-- The line that closes such a block. -/
def closingLine : Bytes := Bytes.ofAscii "-----END CERTIFICATE-----"

/-- The label of such a block. -/
def label : Bytes := Bytes.ofAscii "CERTIFICATE"

/-- What stands between the lines of a block. -/
def body (b : Bytes) : Bytes := Base64.encode b ++ [10]

/-- A certificate is written as its opening line, its body and its closing line. -/
theorem write_eq (b : Bytes) :
    write "CERTIFICATE" b = openingLine ++ ([10] ++ body b) ++ closingLine ++ [10] := by
  have first : opening ++ Utf8.encode "CERTIFICATE" ++ dashes = openingLine := by decide
  have last : closing ++ Utf8.encode "CERTIFICATE" ++ dashes = closingLine := by decide
  rw [write, first, ← last, body]
  simp only [List.append_assoc]

/-- What ends a line: a line feed, or a carriage return and a line feed. -/
def IsLineEnd (ending : Bytes) : Prop := ending = [10] ∨ ending = [13, 10]

/-- Whether octets can stand between the lines of a block for `b`. -/
structure IsBody (b body : Bytes) : Prop where
  /-- The plain ones are the letters for `b`. -/
  letters : body.filter isPlain = Base64.encode b
  /-- The others are at the ends of lines. -/
  others : ∀ x ∈ body, isPlain x = true ∨ x = 10 ∨ x = 13
  /-- The first line is not empty. -/
  starts : ∃ x r, body = x :: r ∧ isPlain x = true
  /-- Nor is a line behind the end of another one. -/
  filled : body.IsChain fun x y => x = 10 → isPlain y = true

/-- Whether octets can stand in front of a block: lines that announce none. -/
structure IsIntroduction (p : Bytes) : Prop where
  /-- The last line ends. -/
  ended : p = [] ∨ p.getLast? = some 10
  /-- Nothing in it begins like a block. -/
  lacks : ¬ opening <:+: p

section
variable {b : Bytes}

/-- What is plain is ASCII. -/
theorem lt_of_isPlain {x : UInt8} (h : isPlain x = true) : x < 0x80 := by
  simp only [isPlain, Bool.and_eq_true, decide_eq_true_eq] at h
  exact h.1.1.1

/-- What is not plain does not occur in base64. -/
theorem not_mem_encode {x : UInt8} (h : isPlain x = false) : x ∉ Base64.encode b := by
  intro m
  rw [Base64.isPlain_of_mem_encode m] at h
  cases h

/-- A body holds no hyphen. -/
theorem not_mem_body : 45 ∉ body b := by
  intro m
  rcases List.mem_append.1 m with m | m
  · exact not_mem_encode (by decide) m
  · exact absurd (List.mem_singleton.1 m) (by decide)

/-- Plain octets in front leave every line filled. -/
theorem isChain_append {l r : Bytes} (plain : ∀ x ∈ l, isPlain x = true)
    (h : r.IsChain fun x y => x = 10 → isPlain y = true) :
    (l ++ r).IsChain fun x y => x = 10 → isPlain y = true := by
  have other : isPlain 10 = false := by decide
  induction l with
  | nil => exact h
  | cons x l ih =>
    have rest := ih fun y m => plain y (List.mem_cons_of_mem x m)
    refine List.isChain_cons.2 ⟨fun y _ same => ?_, rest⟩
    have := plain x List.mem_cons_self
    rw [same, other] at this
    cases this

section
variable {lines : List Bytes} {ending : Bytes}

/-- Of lines with their ends, the plain octets are those of the lines. -/
theorem filter_isPlain_lines (plain : ∀ l ∈ lines, ∀ x ∈ l, isPlain x = true)
    (ends : IsLineEnd ending) :
    (lines.flatMap (· ++ ending)).filter isPlain = lines.flatten := by
  have dropped : ending.filter isPlain = [] := by
    rcases ends with rfl | rfl
    · decide
    · decide
  induction lines with
  | nil => rfl
  | cons l lines ih =>
    have rest := ih fun k m => plain k (List.mem_cons_of_mem l m)
    rw [List.flatMap_cons, List.filter_append, List.filter_append, dropped, List.append_nil,
      List.filter_eq_self.2 (plain l List.mem_cons_self), rest, List.flatten_cons]

/-- Lines that are filled stay so one behind the other. -/
theorem isChain_lines (plain : ∀ l ∈ lines, ∀ x ∈ l, isPlain x = true) (filled : ∀ l ∈ lines, l ≠ [])
    (ends : IsLineEnd ending) :
    (lines.flatMap (· ++ ending)).IsChain fun x y => x = 10 → isPlain y = true := by
  induction lines with
  | nil => exact .nil
  | cons l lines ih =>
    have rest := ih (fun k m => plain k (List.mem_cons_of_mem l m))
      fun k m => filled k (List.mem_cons_of_mem l m)
    have next : ∀ y ∈ (lines.flatMap (· ++ ending)).head?, (10 : UInt8) = 10 → isPlain y = true := by
      rintro y m -
      cases lines with
      | nil => cases m
      | cons k lines =>
        obtain ⟨x, k, rfl⟩ := List.exists_cons_of_ne_nil (filled k (by simp))
        obtain rfl : x = y := by simpa using m
        exact plain (x :: k) (by simp) x List.mem_cons_self
    rw [List.flatMap_cons, List.append_assoc]
    refine isChain_append (plain l List.mem_cons_self) ?_
    have feed := List.isChain_cons.2 ⟨next, rest⟩
    rcases ends with rfl | rfl
    · exact feed
    · exact List.isChain_cons.2 ⟨fun y _ same => absurd same (by decide), feed⟩

/-- Lines of letters, each ended in the same way, can stand between the lines of a block. -/
theorem isBody_lines (nonempty : b ≠ []) (filled : ∀ l ∈ lines, l ≠ [])
    (whole : lines.flatten = Base64.encode b) (ends : IsLineEnd ending) :
    IsBody b (lines.flatMap (· ++ ending)) := by
  have plain : ∀ l ∈ lines, ∀ x ∈ l, isPlain x = true := fun l m x inside =>
    Base64.isPlain_of_mem_encode (whole ▸ List.mem_flatten.2 ⟨l, m, inside⟩)
  constructor
  · rw [filter_isPlain_lines plain ends, whole]
  · intro x m
    obtain ⟨l, line, m⟩ := List.mem_flatMap.1 m
    rcases List.mem_append.1 m with m | m
    · exact .inl (plain l line x m)
    · rcases ends with rfl | rfl
      · exact .inr (.inl (List.mem_singleton.1 m))
      · exact .inr (by simpa [or_comm] using m)
  · cases lines with
    | nil => exact absurd whole.symm (Base64.encode_ne_nil nonempty)
    | cons l lines =>
      obtain ⟨x, l, rfl⟩ := List.exists_cons_of_ne_nil (filled l List.mem_cons_self)
      exact ⟨x, _, rfl, plain (x :: l) List.mem_cons_self x List.mem_cons_self⟩
  · exact isChain_lines plain filled ends

end

/-- A body that was written is one. -/
theorem isBody_body (nonempty : b ≠ []) : IsBody b (body b) := by
  have filled : ∀ l ∈ [Base64.encode b], l ≠ [] := by
    simpa using Base64.encode_ne_nil nonempty
  have one := isBody_lines nonempty filled (by simp) (.inl rfl)
  simpa [body] using one

/-! ## One block -/

section
variable {p ending body after : Bytes}

/-- No body holds a hyphen. -/
theorem IsBody.not_mem (h : IsBody b body) : 45 ∉ body := by
  intro m
  rcases h.others 45 m with plain | feed | carriage
  · exact absurd plain (by decide)
  · exact absurd feed (by decide)
  · exact absurd carriage (by decide)

/-- A body holds no empty line. -/
theorem IsBody.splitBody_eq (h : IsBody b body) : splitBody body = ([], body) := by
  have within {part : Bytes} (inside : part <:+: body) :
      part.IsChain fun x y => x = 10 → isPlain y = true :=
    List.IsChain.infix h.filled inside
  have feeds : ¬ [10, 10] <:+: body := fun inside => absurd (within inside) (by decide)
  have returns : ¬ [13, 10, 13, 10] <:+: body := fun inside => absurd (within inside) (by decide)
  rw [splitBody, splitAtRun?_eq_none feeds, splitAtRun?_eq_none returns]

/-- The text of a body is its letters once what is no letter is left out. -/
theorem IsBody.text_eq (h : IsBody b body) : text body = .ok (String.ofList (Utf8.characters body)) ∧
    (Utf8.characters body).filter (fun c => !isSpacing c) = Utf8.characters (Base64.encode b) := by
  have ascii : ∀ x ∈ body, x < 0x80 := by
    intro x m
    rcases h.others x m with plain | rfl | rfl
    · exact lt_of_isPlain plain
    · decide
    · decide
  have same : ∀ x ∈ body, (!isSpacing (Char.ofNat x.toNat)) = isPlain x := by
    intro x m
    rcases h.others x m with plain | rfl | rfl
    · rw [plain]
      simp only [isPlain, Bool.and_eq_true] at plain
      exact plain.2
    · decide
    · decide
  refine ⟨by rw [text, Utf8.decode?_of_ascii ascii], ?_⟩
  rw [Utf8.characters, List.filter_map, ← h.letters, Utf8.characters]
  exact congrArg _ (List.filter_congr same)

/-- What was captured of a written block is read as its label and its octets. -/
theorem IsBody.ofCapture_eq (h : IsBody b body) :
    Block.ofCapture ⟨label, body, label⟩ = .ok ⟨"CERTIFICATE", [], b⟩ := by
  have labelText : text label = .ok "CERTIFICATE" := by decide
  have nothing : text [] = .ok "" := by decide
  have headers : readHeaders "" = .ok [] := by decide
  have letters := Utf8.encode_characters fun x m =>
    lt_of_isPlain (@Base64.isPlain_of_mem_encode b x m)
  have labelled : "CERTIFICATE".isEmpty = false := by decide
  obtain ⟨shown, filtered⟩ := h.text_eq
  unfold Block.ofCapture
  simp only [labelText, Outcome.ok_bind, labelled, Bool.false_eq_true, if_false, ne_eq, not_true_eq_false,
    h.splitBody_eq, shown, String.toList_ofList, filtered, letters, Base64.decode?_encode, nothing,
    headers]
  rfl

/-- A block cannot begin before the lines in front of it end. -/
theorem IsIntroduction.not_begins (h : IsIntroduction p) :
    ∀ t, t <:+ p → t ≠ [] → ¬ opening <+: t ∧ ¬ t <+: opening := by
  intro t suffix filled
  refine ⟨fun starts => h.lacks (starts.isInfix.trans suffix.isInfix), fun starts => ?_⟩
  have last : t.getLast? = some 10 := by
    obtain ⟨front, rfl⟩ := suffix
    rcases h.ended with empty | ended
    · exact absurd (List.append_eq_nil_iff.1 empty).2 filled
    · rwa [List.getLast?_append_of_ne_nil _ filled] at ended
  have inside : (10 : UInt8) ∈ opening := starts.subset (List.mem_of_getLast? last)
  exact absurd inside (by decide)

/-- The line end before a body is dropped, and nothing of the body. -/
theorem IsBody.dropWhile_eq (h : IsBody b body) (ends : IsLineEnd ending) (r : Bytes) :
    (ending ++ body ++ r).dropWhile isSpace = body ++ r := by
  obtain ⟨x, letters, rfl, plain⟩ := h.starts
  have here : isSpace x = false := by
    simp only [isPlain, Bool.and_eq_true, Bool.not_eq_true'] at plain
    exact plain.1.2
  have feed : isSpace 10 = true := by decide
  have carriage : isSpace 13 = true := by decide
  rcases ends with rfl | rfl
  · simp [feed, here]
  · simp [feed, carriage, here]

/-- A written block is captured whole, and what follows it is left. -/
theorem IsBody.capture?_eq (h : IsBody b body) (introduces : IsIntroduction p) (ends : IsLineEnd ending) :
    capture? (p ++ (openingLine ++ (ending ++ body) ++ closingLine ++ after)) =
      some (⟨label, body, label⟩, after) := by
  have opened : openingLine = opening ++ (label ++ dashes) := by decide
  have closed : closingLine = closing ++ (label ++ dashes) := by decide
  have noDash : (45 : UInt8) ∉ label := by decide
  have first := @splitAtRun?_append p opening
    (label ++ (dashes ++ (ending ++ body ++ (closingLine ++ after)))) (by decide) introduces.not_begins
  have second := @splitAtRun?_append_of_not_mem label dashes (ending ++ body ++ (closingLine ++ after))
    45 rfl noDash
  have third := @splitAtRun?_append_of_not_mem body closing (label ++ (dashes ++ after)) 45 rfl h.not_mem
  have fourth := @splitAtRun?_append_of_not_mem label dashes after 45 rfl noDash
  have whole : p ++ (openingLine ++ (ending ++ body) ++ closingLine ++ after) =
      p ++ (opening ++ (label ++ (dashes ++ (ending ++ body ++ (closingLine ++ after))))) := by
    rw [opened]
    simp only [List.append_assoc]
  have rest : closing ++ (label ++ (dashes ++ after)) = closingLine ++ after := by
    rw [closed]
    simp only [List.append_assoc]
  rw [rest] at third
  unfold capture?
  rw [whole]
  simp only [Option.bind_eq_bind, first, second, h.dropWhile_eq ends, third, fourth, Option.bind_some]

/-- A written block is read as its label and its octets, whatever lines stand in front and as long as no
other block begins behind it. -/
theorem IsBody.readAll_eq (h : IsBody b body) (introduces : IsIntroduction p) (ends : IsLineEnd ending)
    (lacks : ¬ opening <:+: after) :
    readAll (p ++ (openingLine ++ (ending ++ body) ++ closingLine ++ after)) =
      .ok [⟨"CERTIFICATE", [], b⟩] := by
  have nothing : captures after = [] := by
    refine captures_eq_nil ?_
    rw [capture?, splitAtRun?_eq_none lacks]
    rfl
  rw [readAll, captures_of_capture? (h.capture?_eq introduces ends), nothing]
  simp only [List.mapM_cons, List.mapM_nil, h.ofCapture_eq, Outcome.ok_bind]
  rfl

/-- Nothing is an introduction. -/
theorem isIntroduction_nil : IsIntroduction [] := ⟨.inl rfl, by decide⟩

/-- A written block by itself, without the end of its last line. -/
theorem readAll_block (nonempty : b ≠ []) :
    readAll (openingLine ++ ([10] ++ Pem.body b) ++ closingLine) = .ok [⟨"CERTIFICATE", [], b⟩] := by
  have lacks : ¬ opening <:+: [] := by decide
  have alone := (isBody_body nonempty).readAll_eq isIntroduction_nil (.inl rfl) lacks
  rwa [List.nil_append, List.append_nil] at alone

end

end

/-! ## How long a block is -/

/-- The body of a block is shorter than the text that it is found in. -/
theorem length_body_lt {b rest : Bytes} {c : Capture} (h : capture? b = some (c, rest)) :
    c.body.length < b.length := by
  simp only [capture?, Option.bind_eq_bind, Option.bind_eq_some_iff, Prod.exists] at h
  obtain ⟨_, r₁, first, _, r₂, second, body, r₃, third, _, r₄, _, same⟩ := h
  obtain ⟨rfl, rfl⟩ := Prod.mk.inj (Option.some.inj same)
  have l₁ := splitAtRun?_length first
  have l₂ := splitAtRun?_length second
  have l₃ := congrArg List.length (eq_of_splitAtRun? third)
  have dropped := (List.dropWhile_sublist isSpace (l := r₂)).length_le
  have long : 0 < opening.length := by decide
  simp only [List.length_append] at l₃
  show body.length < b.length
  omega

/-- The bodies of all blocks of a text are shorter than the text. -/
theorem length_body_lt_of_mem {b : Bytes} {c : Capture} (h : c ∈ captures b) :
    c.body.length < b.length := by
  fun_induction captures b with
  | case1 b missed => cases h
  | case2 b c' rest found ih =>
    rcases List.mem_cons.1 h with rfl | h
    · exact length_body_lt found
    · exact (ih h).trans (capture?_length found)

/-- What is left of a body without its headers is no longer than the body. -/
theorem length_splitBody_le (body : Bytes) : (splitBody body).2.length ≤ body.length := by
  unfold splitBody
  split
  · rename_i parts found
    exact (Nat.le_add_right _ _).trans (splitAtRun?_length found)
  · split
    · rename_i parts found
      exact (Nat.le_add_right _ _).trans (splitAtRun?_length found)
    · exact Nat.le_refl _

/-- The octets of a block are no more than what stands between its lines. -/
theorem length_contents_le {c : Capture} {block : Block} (h : Block.ofCapture c = .ok block) :
    block.contents.length ≤ c.body.length := by
  unfold Block.ofCapture at h
  obtain ⟨label, -, h⟩ := Outcome.bind_eq_ok.1 h
  dsimp only at h
  split at h
  · cases h
  obtain ⟨closingLabel, -, h⟩ := Outcome.bind_eq_ok.1 h
  split at h
  · cases h
  obtain ⟨shown, read, h⟩ := Outcome.bind_eq_ok.1 h
  split at h
  · cases h
  · rename_i contents decoded
    obtain ⟨_, -, h⟩ := Outcome.bind_eq_ok.1 h
    obtain ⟨_, -, h⟩ := Outcome.bind_eq_ok.1 h
    obtain rfl := Except.ok.inj h
    have tailText : Utf8.decode? (splitBody c.body).2 = some shown := by
      unfold text at read
      split at read
      · rename_i s found
        rw [found, Except.ok.inj read]
      · cases read
    obtain ⟨ascii, fits⟩ := Base64.ascii_of_decode? decoded
    rw [Utf8.encode, String.toList_ofList] at ascii fits
    calc contents.length
        ≤ _ := fits
      _ = (shown.toList.filter fun c => !isSpacing c).length := Utf8.length_encode_of_ascii ascii
      _ ≤ shown.toList.length := List.length_filter_le _ _
      _ ≤ (splitBody c.body).2.length := Utf8.length_le_of_decode? tailText
      _ ≤ c.body.length := length_splitBody_le _

/-- The octets of each block are fewer than those of the text. -/
theorem length_lt_of_mem_readAll {b : Bytes} {blocks : List Block} (h : readAll b = .ok blocks) :
    ∀ block ∈ blocks, block.contents.length < b.length := by
  unfold readAll at h
  obtain ⟨blocks', read, h⟩ := Outcome.bind_eq_ok.1 h
  dsimp only at h
  split at h
  · cases h
  · obtain rfl := Except.ok.inj h
    intro block m
    obtain ⟨c, m, here⟩ := Outcome.exists_of_forall₂_right (Outcome.mapM_eq_ok_iff.1 read) m
    exact (length_contents_le here).trans_lt (length_body_lt_of_mem m)

end Pem

end ImageSigning
