import ImageSigning.Proofs.CertificateTable
import Mathlib.Data.List.Forall2
import Mathlib.Order.Bounds.Defs

/-!
# The grammar of certificate tables

A table is entries, one behind the other. Behind the content of each entry stand octets that nobody looks
at, up to the next multiple of eight, where the next entry begins; behind the last entry the table may end
before that. Any octets fall into such entries as far as they go, and there is one way only in which they
do: either they are a table, or something stands behind the last entry that is none. Reading finds these
entries and that obstruction, whatever the octets are, in no more rounds than there are units of eight.

* **`Entry`** — an entry as it stands in a table.
* **`ParsesFrom`** — how octets fall into entries, and what stops there.
* **`ParsesFrom.unique`**, **`exists_parsesFrom`** — they do so in one way.
* **`ParsesFrom.readFrom_eq`** — reading finds it.
* **`read_write_filledUp`** — a table that was written reads as the contents, each filled up.
-/

namespace ImageSigning

namespace CertificateTable

open Bytes

/-! ## Entries -/

/-- An entry as it stands in a table, with the octets between it and the next one. -/
structure Entry where
  /-- The revision in the header. -/
  revision : Nat
  /-- The content. -/
  content : Bytes
  /-- What stands behind the content. -/
  gap : Bytes
  /-- The revision fits the header. -/
  revision_lt : revision < 2 ^ 16
  /-- So does the length. -/
  length_lt : headerSize + content.length < 2 ^ 32

namespace Entry

/-- The length that the header tells, which counts the header and the content. -/
def length (e : Entry) : Nat := headerSize + e.content.length

/-- The octets of the header. -/
def header (e : Entry) : Bytes :=
  ofNatLE 4 e.length ++ ofNatLE 2 e.revision ++ ofNatLE 2 signedDataType

/-- The octets of the entry with what stands behind it. -/
def octets (e : Entry) : Bytes := e.header ++ e.content ++ e.gap

/-- Where the next entry begins if this one begins at `start`: the next multiple of eight. -/
def next (e : Entry) (start : Nat) : Nat := alignUp (start + e.length)

/-- Whether the octets behind the entry reach from its end to where the next one begins. Where the table
ends with them, they may be cut short. -/
def Fills (e : Entry) (start : Nat) (atEnd : Prop) : Prop :=
  start + e.length + e.gap.length = e.next start ∨
    atEnd ∧ start + e.length + e.gap.length < e.next start

variable {e : Entry} {start : Nat} {rest : Bytes}

/-- The header of an entry has eight octets. -/
@[simp] theorem length_header (e : Entry) : e.header.length = 8 := by simp [header]

/-- An entry is as long as it says, and the gap behind it. -/
theorem length_octets (e : Entry) : e.octets.length = e.length + e.gap.length := by
  simp [octets, length, headerSize, Nat.add_assoc]

/-- An entry has octets, so a text that begins with one is not empty. -/
theorem octets_append_ne_nil (e : Entry) (rest : Bytes) : e.octets ++ rest ≠ [] := by
  intro empty
  have size := congrArg List.length empty
  rw [List.length_append, length_octets, length, headerSize, List.length_nil] at size
  omega

/-- The next entry begins at a multiple of eight. -/
theorem eight_dvd_next (e : Entry) (start : Nat) : 8 ∣ e.next start := eight_dvd_alignUp _

/-- Where the table goes on behind the entry. -/
theorem next_eq (aligned : 8 ∣ start) : e.next start = start + alignUp e.length :=
  alignUp_add aligned _

/-- What stands behind an entry and its gap is what stands behind the next multiple of eight. -/
theorem Fills.drop_eq (h : e.Fills start (rest = [])) (aligned : 8 ∣ start) :
    (e.octets ++ rest).drop (alignUp e.length) = rest := by
  have place := @next_eq e start aligned
  have size := e.length_octets
  rcases h with full | ⟨rfl, short⟩
  · exact List.drop_left' (by omega)
  · rw [List.append_nil]
    exact List.drop_eq_nil_of_le (by omega)

/-- The gap is what stands between the end of an entry and the next multiple of eight. -/
theorem Fills.gap_eq (h : e.Fills start (rest = [])) (aligned : 8 ∣ start) :
    ((e.octets ++ rest).take (alignUp e.length)).drop e.length = e.gap := by
  have place := @next_eq e start aligned
  have size := e.length_octets
  have front : (e.header ++ e.content).length = e.length := by simp [length, headerSize]
  have whole : (e.octets ++ rest).take (alignUp e.length) = e.octets := by
    rcases h with full | ⟨rfl, short⟩
    · exact List.take_left' (by omega)
    · rw [List.append_nil]
      exact List.take_of_length_le (by omega)
  rw [whole, octets, List.drop_left' front]

end Entry

/-- An entry that octets begin with, as its header tells of it. -/
structure Entry.IsHeadOf (e : Entry) (left : Bytes) : Prop where
  inside : e.length ≤ left.length
  length : numberIn left 0 4 = e.length
  revision : numberIn left 4 2 = e.revision
  type : numberIn left 6 2 = signedDataType
  content : left.slice headerSize e.length = e.content

/-- An entry is the head of any text that begins with it. -/
theorem Entry.isHeadOf_octets (e : Entry) (rest : Bytes) : e.IsHeadOf (e.octets ++ rest) := by
  have size := e.length_octets
  have small : e.length < 256 ^ 4 := e.length_lt
  have small' : e.revision < 256 ^ 2 := e.revision_lt
  have shown : e.octets ++ rest = ofNatLE 4 e.length ++ (ofNatLE 2 e.revision
      ++ (ofNatLE 2 signedDataType ++ (e.content ++ (e.gap ++ rest)))) := by
    simp [octets, header]
  refine ⟨?_, ?_, ?_, ?_, ?_⟩
  · rw [List.length_append]
    omega
  · rw [shown]
    exact @numberIn_ofNatLE [] _ _ 0 4 _ rfl rfl small
  · rw [shown]
    exact numberIn_ofNatLE (length_ofNatLE 4 _) rfl small'
  · rw [shown, ← List.append_assoc]
    exact numberIn_ofNatLE (by simp) rfl (by decide)
  · rw [shown, ← List.append_assoc, ← List.append_assoc]
    exact slice_middle (by simp [headerSize]) rfl _

/-- Octets that a header tells of as an entry begin with one. -/
theorem exists_entry {left : Bytes} {start : Nat} (aligned : 8 ∣ start)
    (least : headerSize ≤ numberIn left 0 4) (inside : numberIn left 0 4 ≤ left.length)
    (type : numberIn left 6 2 = signedDataType) :
    ∃ (e : Entry) (rest : Bytes), left = e.octets ++ rest ∧ e.Fills start (rest = []) := by
  have written {offset width : Nat} (fits : offset + width ≤ left.length) :
      ofNatLE width (numberIn left offset width) = left.slice offset (offset + width) := by
    rw [← toNatLE_slice, ofNatLE_toNatLE]
    rw [length_slice, min_eq_left fits, Nat.add_sub_cancel_left]
  have length_lt : numberIn left 0 4 < 2 ^ 32 := numberIn_lt left 0 4
  have revision_lt : numberIn left 4 2 < 2 ^ 16 := numberIn_lt left 4 2
  have first := @written 0 4 (le_trans (by decide) (le_trans least inside))
  generalize numberIn left 0 4 = n at *
  have content : headerSize + (left.slice headerSize n).length = n := by
    rw [length_slice]
    omega
  let e : Entry :=
    { revision := numberIn left 4 2
      content := left.slice headerSize n
      gap := left.slice n (alignUp n)
      revision_lt
      length_lt := by rwa [content] }
  have size : e.length = n := content
  have above := alignUp_ge n
  refine ⟨e, left.drop (alignUp n), ?_, ?_⟩
  · change 8 ≤ n at least
    have head : e.header = left.slice 0 8 := by
      rw [Entry.header, size, first, @written 4 2 (by omega), ← type, @written 6 2 (by omega),
        slice_append_slice (by decide) (by decide), slice_append_slice (by decide) (by decide)]
    calc left = left.slice 0 (alignUp n) ++ left.drop (alignUp n) :=
          (List.take_append_drop ..).symm
      _ = left.slice 0 8 ++ left.slice 8 n ++ left.slice n (alignUp n)
            ++ left.drop (alignUp n) := by
          rw [slice_append_slice (by decide) least, slice_append_slice (Nat.zero_le _) above]
      _ = e.octets ++ left.drop (alignUp n) := by
          rw [Entry.octets, head]
          rfl
  · have gap : e.gap.length = min (alignUp n) left.length - n := length_slice ..
    unfold Entry.Fills
    rw [Entry.next_eq aligned, size, gap, List.drop_eq_nil_iff]
    omega

/-! ## What reading meets -/

/-- What is in the way where octets are left that begin with no entry. -/
inductive Obstructs (start : Nat) (left : Bytes) : LayoutProblem → Prop
  | truncated (nonempty : left ≠ []) (short : left.length < headerSize) :
    Obstructs start left (.truncatedEntry start)
  | length (room : headerSize ≤ left.length)
    (unfit : numberIn left 0 4 < headerSize ∨ left.length < numberIn left 0 4) :
    Obstructs start left (.invalidLength (numberIn left 0 4) start)
  | type (least : headerSize ≤ numberIn left 0 4) (inside : numberIn left 0 4 ≤ left.length)
    (other : numberIn left 6 2 ≠ signedDataType) :
    Obstructs start left (.unsupportedType (numberIn left 6 2) start)

section
variable {start : Nat} {left : Bytes} {e : Entry} {p : LayoutProblem}

/-- Nothing is in the way where nothing is left. -/
theorem not_obstructs_nil : ¬ Obstructs start [] p := by
  rintro (⟨nonempty, -⟩ | ⟨room, -⟩ | ⟨least, inside, -⟩)
  · exact nonempty rfl
  · cases room
  · cases le_trans least inside

/-- Nothing is in the way of an entry that is there. -/
theorem Entry.IsHeadOf.not_obstructs (h : e.IsHeadOf left) : ¬ Obstructs start left p := by
  have least : headerSize ≤ e.length := Nat.le_add_right ..
  have inside := h.inside
  rintro (⟨-, short⟩ | ⟨-, unfit⟩ | ⟨-, -, other⟩)
  · omega
  · rw [h.length] at unfit
    omega
  · exact other h.type

/-- Where any octets are left, an entry begins or something is in the way. -/
theorem exists_entry_or_obstructs (aligned : 8 ∣ start) (nonempty : left ≠ []) :
    (∃ (e : Entry) (rest : Bytes), left = e.octets ++ rest ∧ e.Fills start (rest = [])) ∨
      ∃ p, Obstructs start left p := by
  by_cases short : left.length < headerSize
  · exact .inr ⟨_, .truncated nonempty short⟩
  · by_cases unfit : numberIn left 0 4 < headerSize ∨ left.length < numberIn left 0 4
    · exact .inr ⟨_, .length (not_lt.1 short) unfit⟩
    · rw [not_or, not_lt, not_lt] at unfit
      by_cases type : numberIn left 6 2 = signedDataType
      · exact .inl (exists_entry aligned unfit.1 unfit.2 type)
      · exact .inr ⟨_, .type unfit.1 unfit.2 type⟩

/-- Reading stops where something is in the way. -/
theorem Obstructs.readFrom_eq (h : Obstructs start left p) (fuel : Nat) :
    readFrom (fuel + 1) start left = ⟨.error p, []⟩ := by
  have length : toNatLE (left.take 4) = numberIn left 0 4 := toNatLE_take left 4
  have type : toNatLE (left.slice 6 8) = numberIn left 6 2 := toNatLE_slice left 6 2
  cases h with
  | truncated nonempty short =>
    rcases left with _ | ⟨x, r⟩
    · exact (nonempty rfl).elim
    · rw [readFrom, if_pos short]
      exact List.cons_ne_nil x r
  | length room unfit => rw [readFrom_succ room, length, if_pos unfit]
  | type least inside other =>
    have fits : ¬ (numberIn left 0 4 < headerSize ∨ left.length < numberIn left 0 4) := by omega
    rw [readFrom_succ (le_trans least inside), length, if_neg fits, type, if_pos other]

/-- Only one thing is in the way at a time. -/
theorem Obstructs.unique {q : LayoutProblem} (h : Obstructs start left p)
    (h' : Obstructs start left q) : p = q := by
  have same := (h.readFrom_eq 0).symm.trans (h'.readFrom_eq 0)
  exact Except.error.inj (congrArg Reading.contents same)

/-- Reading takes an entry with its gap and goes on behind them. -/
theorem Entry.readFrom_eq {rest : Bytes} (aligned : 8 ∣ start) (gap : e.Fills start (rest = []))
    (fuel : Nat) : readFrom (fuel + 1) start (e.octets ++ rest)
      = .cons e.content
        (if e.revision ≠ CertificateTable.revision then [(start, e.revision)] else [])
        (readFrom fuel (e.next start) rest) := by
  have behind := gap.drop_eq aligned
  have head := e.isHeadOf_octets rest
  generalize e.octets ++ rest = left at *
  have length : toNatLE (left.take 4) = e.length := (toNatLE_take left 4).trans head.length
  have revisionRead : toNatLE (left.slice 4 6) = e.revision :=
    (toNatLE_slice left 4 2).trans head.revision
  have type : toNatLE (left.slice 6 8) = signedDataType := (toNatLE_slice left 6 2).trans head.type
  have least : headerSize ≤ e.length := Nat.le_add_right ..
  have fits : ¬ (e.length < headerSize ∨ left.length < e.length) := by
    have inside := head.inside
    omega
  rw [readFrom_succ (le_trans least head.inside), length, revisionRead, type, if_neg fits,
    if_neg (not_not_intro rfl), head.content, behind, Entry.next_eq aligned]

end

/-! ## How octets fall into entries -/

/-- How the octets from position `start` of a table on fall into entries: all of them, or up to where
something is in the way. -/
inductive ParsesFrom : Nat → Bytes → List Entry → Option LayoutProblem → Prop
  | done {start : Nat} : ParsesFrom start [] [] none
  | stopped {start : Nat} {left : Bytes} {p : LayoutProblem} (h : Obstructs start left p) :
    ParsesFrom start left [] (some p)
  | entry {start : Nat} {e : Entry} {rest : Bytes} {es : List Entry} {o : Option LayoutProblem}
    (gap : e.Fills start (rest = [])) (others : ParsesFrom (e.next start) rest es o) :
    ParsesFrom start (e.octets ++ rest) (e :: es) o

/-- Octets that are a table with these entries. -/
def IsTable (table : Bytes) (es : List Entry) : Prop := ParsesFrom 0 table es none

/-- Octets that begin with these entries and are no table for what is in the way behind them. -/
def StopsAt (table : Bytes) (es : List Entry) (p : LayoutProblem) : Prop :=
  ParsesFrom 0 table es (some p)

/-- What reading gives of octets that fall into these entries: the contents, or what is in the way. -/
def outcomeOf (es : List Entry) : Option LayoutProblem → Except LayoutProblem (List Bytes)
  | none => .ok (es.map Entry.content)
  | some p => .error p

/-- Where the entries of another revision stand if the first one stands at `start`, and which revision
it is. -/
def oddOnes : Nat → List Entry → List (Nat × Nat)
  | _, [] => []
  | start, e :: es =>
    (if e.revision ≠ revision then [(start, e.revision)] else []) ++ oddOnes (e.next start) es

/-- There is one of these for each entry of another revision. -/
theorem map_snd_oddOnes (start : Nat) (es : List Entry) :
    (oddOnes start es).map Prod.snd = (es.map Entry.revision).filter (· ≠ revision) := by
  induction es generalizing start with
  | nil => rfl
  | cons e es ih =>
    rw [oddOnes, List.map_append, ih, List.map_cons, List.filter_cons]
    by_cases odd : e.revision ≠ revision
    · simp [odd]
    · simp [odd]

section
variable {start : Nat} {left : Bytes} {es : List Entry} {o : Option LayoutProblem}

/-- Octets begin with one entry at most, and its gap and what follows are determined. -/
theorem Entry.eq_of_octets {e e' : Entry} {rest rest' : Bytes} (aligned : 8 ∣ start)
    (same : e.octets ++ rest = e'.octets ++ rest') (gap : e.Fills start (rest = []))
    (gap' : e'.Fills start (rest' = [])) : e = e' ∧ rest = rest' := by
  have head := e.isHeadOf_octets rest
  have head' := e'.isHeadOf_octets rest'
  have gapSize := gap.gap_eq aligned
  have gapSize' := gap'.gap_eq aligned
  have behind := gap.drop_eq aligned
  have behind' := gap'.drop_eq aligned
  rw [same] at head gapSize behind
  have length : e.length = e'.length := head.length.symm.trans head'.length
  have revision : e.revision = e'.revision := head.revision.symm.trans head'.revision
  rw [length] at gapSize behind
  have content : e.content = e'.content := by rw [← head.content, length, head'.content]
  refine ⟨?_, behind.symm.trans behind'⟩
  rcases e with ⟨r, c, g, _, _⟩
  rcases e' with ⟨r', c', g', _, _⟩
  obtain rfl : r = r' := revision
  obtain rfl : c = c' := content
  obtain rfl : g = g' := gapSize.symm.trans gapSize'
  rfl

/-- Octets fall into entries in one way. -/
theorem ParsesFrom.unique {es' : List Entry} {o' : Option LayoutProblem} (aligned : 8 ∣ start)
    (h : ParsesFrom start left es o) (h' : ParsesFrom start left es' o') : es = es' ∧ o = o' := by
  induction h generalizing es' o' with
  | done =>
    generalize nothing : ([] : Bytes) = left at h'
    cases h' with
    | done => exact ⟨rfl, rfl⟩
    | stopped stop => exact (not_obstructs_nil (nothing ▸ stop)).elim
    | entry => exact (Entry.octets_append_ne_nil _ _ nothing.symm).elim
  | stopped stop =>
    cases h' with
    | done => exact (not_obstructs_nil stop).elim
    | stopped stop' => exact ⟨rfl, congrArg some (stop.unique stop')⟩
    | entry => exact ((Entry.isHeadOf_octets _ _).not_obstructs stop).elim
  | @entry start e rest es o gap others ih =>
    generalize shown : e.octets ++ rest = left at h'
    cases h' with
    | done => exact (Entry.octets_append_ne_nil _ _ shown).elim
    | stopped stop => exact ((shown ▸ e.isHeadOf_octets rest).not_obstructs stop).elim
    | entry gap' others' =>
      obtain ⟨rfl, rfl⟩ := Entry.eq_of_octets aligned shown gap gap'
      obtain ⟨rfl, rfl⟩ := ih (Entry.eight_dvd_next ..) others'
      exact ⟨rfl, rfl⟩

/-- Any octets fall into entries as far as they go. -/
theorem exists_parsesFrom (aligned : 8 ∣ start) (left : Bytes) :
    ∃ es o, ParsesFrom start left es o := by
  -- each entry takes its header at least, so fewer octets are left behind it
  induction size : left.length using Nat.strong_induction_on generalizing start left with
  | _ n ih =>
    by_cases empty : left = []
    · subst empty
      exact ⟨[], none, .done⟩
    · rcases exists_entry_or_obstructs aligned empty with ⟨e, rest, rfl, gap⟩ | ⟨p, stop⟩
      · have shorter : rest.length < n := by
          rw [← size, List.length_append, e.length_octets, Entry.length, headerSize]
          omega
        obtain ⟨es, o, others⟩ := ih _ shorter (e.eight_dvd_next start) rest rfl
        exact ⟨e :: es, o, .entry gap others⟩
      · exact ⟨[], some p, .stopped stop⟩

/-- Reading finds the entries that octets fall into, and what is in the way, in no more rounds than the
octets have units of eight. -/
theorem ParsesFrom.readFrom_eq (h : ParsesFrom start left es o) (aligned : 8 ∣ start) {fuel : Nat}
    (enough : left.length ≤ 8 * fuel) :
    readFrom fuel start left = ⟨outcomeOf es o, oddOnes start es⟩ := by
  induction h generalizing fuel with
  | done => cases fuel <;> rfl
  | @stopped start left p stop =>
    cases fuel with
    | zero =>
      obtain rfl : left = [] := List.eq_nil_of_length_eq_zero (by omega)
      exact (not_obstructs_nil stop).elim
    | succ fuel => exact stop.readFrom_eq fuel
  | @entry start e rest es o gap others ih =>
    rw [List.length_append, e.length_octets, Entry.length, headerSize] at enough
    cases fuel with
    | zero => omega
    | succ fuel =>
      rw [Entry.readFrom_eq aligned gap, ih (e.eight_dvd_next start) (by omega)]
      cases o <;> rfl

/-- A table that the grammar parses is read as it parses, with a warning for each odd revision. -/
theorem ParsesFrom.read_eq {table : Bytes} (h : ParsesFrom 0 table es o) :
    read table = ⟨outcomeOf es o, oddOnes 0 es⟩ :=
  h.readFrom_eq (Nat.dvd_zero 8) (by omega)

/-- A table is read as the contents of its entries, and nothing else is. -/
theorem contents_read_eq_ok {table : Bytes} {contents : List Bytes} :
    (read table).contents = .ok contents ↔
      ∃ es, IsTable table es ∧ es.map Entry.content = contents := by
  constructor
  · intro accepted
    obtain ⟨es, o, parses⟩ := exists_parsesFrom (Nat.dvd_zero 8) table
    rw [parses.read_eq] at accepted
    cases o with
    | none => exact ⟨es, parses, Except.ok.inj accepted⟩
    | some p => cases accepted
  · rintro ⟨es, parses, rfl⟩
    rw [ParsesFrom.read_eq parses]
    rfl

/-- What is no table is refused for what is in the way in it. -/
theorem contents_read_eq_error {table : Bytes} {p : LayoutProblem} :
    (read table).contents = .error p ↔ ∃ es, StopsAt table es p := by
  constructor
  · intro refused
    obtain ⟨es, o, parses⟩ := exists_parsesFrom (Nat.dvd_zero 8) table
    rw [parses.read_eq] at refused
    cases o with
    | none => cases refused
    | some q =>
      obtain rfl := Except.error.inj refused
      exact ⟨es, parses⟩
  · rintro ⟨es, parses⟩
    rw [ParsesFrom.read_eq parses]
    rfl

/-- The contents of a table are written in as many octets as the table has with its last gap filled up. -/
theorem ParsesFrom.length_write (h : ParsesFrom start left es none) (aligned : 8 ∣ start) :
    (write (es.map Entry.content)).length = alignUp left.length := by
  generalize whole : (none : Option LayoutProblem) = o at h
  induction h with
  | done => rfl
  | stopped => cases whole
  | @entry start e rest es o gap others ih =>
    have size := e.length_octets
    have place := @Entry.next_eq e start aligned
    have shown : write ((e :: es).map Entry.content)
        = CertificateTable.entry e.content ++ write (es.map Entry.content) := List.flatMap_cons
    have first : (CertificateTable.entry e.content).length = alignUp e.length := length_entry _
    rw [shown, List.length_append, first, ih (e.eight_dvd_next start) whole, List.length_append]
    rcases gap with full | ⟨rfl, short⟩
    · have filled : e.octets.length = alignUp e.length := by omega
      rw [filled, alignUp_add (eight_dvd_alignUp _)]
    · have below : e.octets.length < alignUp e.length := by omega
      have least : e.length ≤ e.octets.length := by omega
      rw [List.length_nil]
      unfold alignUp at below ⊢
      omega

end

/-! ## Tables that were written -/

/-- Octets filled up with the fewest zeros that make their number a multiple of eight. -/
def IsFilledUp (content filled : Bytes) : Prop :=
  ∃ k, filled = content ++ zeros k ∧ IsLeast {n | 8 ∣ content.length + n} k

/-- A signature is filled up once its padding is behind it. -/
theorem isFilledUp_padded (content : Bytes) : IsFilledUp content (padded content) := by
  refine ⟨_, rfl, ?_, fun n multiple => ?_⟩
  · change 8 ∣ content.length + paddingAfter (headerSize + content.length)
    unfold paddingAfter alignUp headerSize
    omega
  · change 8 ∣ content.length + n at multiple
    unfold paddingAfter alignUp headerSize
    omega

/-- Filling up once more adds nothing. -/
theorem padded_padded (content : Bytes) : padded (padded content) = padded content :=
  padded_append_zeros le_rfl

/-- The length of an entry fits its header exactly if the content is short enough. -/
theorem length_entry_lt_iff {content : Bytes} :
    (entry content).length < 2 ^ 32 ↔ content.length < 2 ^ 32 - 15 := by
  rw [length_entry]
  unfold alignUp headerSize
  omega

/-- Contents that are short enough are read from the table that is written of them as they are filled
up, and nothing is told. -/
theorem exists_read_write {contents : List Bytes}
    (short : ∀ c ∈ contents, c.length < 2 ^ 32 - 15) :
    read (write contents) = ⟨.ok (contents.map padded), []⟩ ∧
      List.Forall₂ IsFilledUp contents (contents.map padded) := by
  refine ⟨readFrom_write (fun c m => length_entry_lt_iff.2 (short c m)) le_rfl 0, ?_⟩
  rw [List.forall₂_map_right_iff]
  exact List.forall₂_same.2 fun c _ => isFilledUp_padded c

/-- **Written tables and what they are read as.** Contents that are short enough for the header of an entry
are read from the table that is written of them, each filled up with the fewest zeros that make it a
multiple of eight, and no entry is told of. So are the contents of any table that is read: written again
they make up a table with the same contents, filled up, which is as long as the first one with its last
gap, and from then on the table stays the same. -/
theorem read_write_filledUp :
    (∀ contents : List Bytes, (∀ c ∈ contents, c.length < 2 ^ 32 - 15) →
      ∃ filled, read (write contents) = ⟨.ok filled, []⟩ ∧
        List.Forall₂ IsFilledUp contents filled) ∧
    ∀ (table : Bytes) (contents : List Bytes), (read table).contents = .ok contents →
      (∀ c ∈ contents, c.length < 2 ^ 32 - 15) →
      ∃ filled, read (write contents) = ⟨.ok filled, []⟩ ∧
        List.Forall₂ IsFilledUp contents filled ∧ write filled = write contents ∧
        (write contents).length = alignUp table.length := by
  refine ⟨fun contents short => ⟨_, exists_read_write short⟩, fun table contents accepted short => ?_⟩
  obtain ⟨again, filledUp⟩ := exists_read_write short
  obtain ⟨es, parses, rfl⟩ := contents_read_eq_ok.1 accepted
  refine ⟨_, again, filledUp, write_congr ?_, parses.length_write (Nat.dvd_zero 8)⟩
  rw [List.map_map]
  exact List.map_congr_left fun c _ => padded_padded c

/-- A table with an entry of an old revision, whose last gap is cut short. -/
def cutTable : Bytes :=
  ofNatLE 4 10 ++ ofNatLE 2 0x100 ++ ofNatLE 2 signedDataType ++ [0x30, 0] ++ [7, 7]

/-- The content of the cut table is read again behind the whole header, with six zeros. -/
theorem read_write_filledUp_cutTable :
    (∃ filled, read (write [[], [0x30, 0]]) = ⟨.ok filled, []⟩ ∧
      List.Forall₂ IsFilledUp [[], [0x30, 0]] filled) ∧
    (read cutTable).contents = .ok [[0x30, 0]] ∧
    ∃ filled, read (write [[0x30, 0]]) = ⟨.ok filled, []⟩ ∧
      List.Forall₂ IsFilledUp [[0x30, 0]] filled ∧ write filled = write [[0x30, 0]] ∧
      (write [[0x30, 0]]).length = alignUp cutTable.length := by
  have accepted : (read cutTable).contents = .ok [[0x30, 0]] := rfl
  obtain ⟨written, reread⟩ := read_write_filledUp
  exact ⟨written [[], [0x30, 0]] (by decide), accepted, reread cutTable _ accepted (by decide)⟩

end CertificateTable

end ImageSigning
