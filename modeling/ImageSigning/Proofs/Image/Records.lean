import ImageSigning.Image.Checksum
import ImageSigning.Proofs.Image.Headers

/-!
# The records of headers

Before an image is added up, the records of its headers are put back where they were read. A record
says what the file says at its place, and zeros behind the end of the file, so putting it back changes
nothing but the length: a header that runs past the end leaves zeros there. How many depends on the
length of the file and on the places of the records, not on what they say.

* **`foldl_putBack`** — records put back leave the octets and, behind them, zeros.
* **`Headers.foldl_records`** — the same for the records of headers that were read.
* **`Headers.excess_le`**, **`Headers.checksum_lt`** — those zeros are few, and a checksum is little more
  than the length.
* **`Headers.exists_read_of_agree`** — headers can still be read where only the checksum is another.
-/

namespace ImageSigning

open Bytes

/-! ## Records and what they were read from -/

namespace Bytes

/-- Octets behind the end leave those before it. -/
theorem octetAt_append_left {a : Bytes} {n : Nat} (h : n < a.length) (b : Bytes) :
    octetAt (a ++ b) n = octetAt a n := by
  rw [octetAt, octetAt, List.getElem?_append_left h]

/-- Octets behind others are counted from where those end. -/
theorem octetAt_append_right {a : Bytes} {n : Nat} (h : a.length ≤ n) (b : Bytes) :
    octetAt (a ++ b) n = octetAt b (n - a.length) := by
  rw [octetAt, octetAt, List.getElem?_append_right h]

/-- Behind the end zeros are read. -/
theorem octetAt_of_length_le {b : Bytes} {n : Nat} (h : b.length ≤ n) : octetAt b n = 0 := by
  rw [octetAt, List.getElem?_eq_none h, Option.getD_none]

/-- Octets of the same number are the same if they are at each position. -/
theorem ext_octetAt {a b : Bytes} (length : a.length = b.length)
    (same : ∀ n < a.length, octetAt a n = octetAt b n) : a = b := by
  refine List.ext_getElem length fun n here there => ?_
  have octet := same n here
  rwa [octetAt, octetAt, List.getElem?_eq_getElem here, List.getElem?_eq_getElem there] at octet

end Bytes

namespace Record

/-- A record says what the octets say at its place, and zeros behind their end. -/
def IsFrom (r : Record) (b : Bytes) : Prop :=
  ∀ n < r.octets.length, octetAt r.octets n = octetAt b (r.offset + n)

/-- Where a record stands, and how many octets it has. -/
def place (r : Record) : Nat × Nat := (r.offset, r.octets.length)

variable {b : Bytes} {offset size : Nat}

/-- Octets read at a place, filled up with zeros. -/
theorem isFrom_filled : IsFrom ⟨offset, (b.drop offset).take size
    ++ zeros (size - ((b.drop offset).take size).length)⟩ b := by
  intro n small
  have here : n < size := by
    rw [List.length_append, List.length_take, length_zeros] at small
    omega
  rw [octetAt_append_zeros, octetAt_take here, octetAt_drop]

/-- A record that is read stands where it was read from. -/
theorem isFrom_of_read? {least : Nat} {r : Record} (h : read? b offset size least = some r) :
    r.IsFrom b ∧ r.place = (offset, size) := by
  have width := length_octets h
  unfold read? at h
  dsimp only at h
  split at h
  · cases h
  · obtain rfl := Option.some.inj h
    exact ⟨isFrom_filled, by rw [place, width]⟩

/-- A record is read exactly if the least that it needs is left. -/
theorem exists_read?_iff {least : Nat} :
    (∃ r, read? b offset size least = some r) ↔ min least size ≤ b.length - offset := by
  unfold read?
  dsimp only
  rw [List.length_take, List.length_drop]
  by_cases cut : min size (b.length - offset) < min least size
  · rw [if_pos cut]
    simp only [reduceCtorEq, exists_false, false_iff]
    omega
  · rw [if_neg cut]
    simp only [Option.some.injEq, exists_eq', true_iff]
    omega

/-- What is read at a place depends on the octets there only. -/
theorem read?_congr {a : Bytes} {least : Nat}
    (same : ∀ n, offset ≤ n → n < offset + size → b[n]? = a[n]?) :
    read? b offset size least = read? a offset size least := by
  have octets : (b.drop offset).take size = (a.drop offset).take size := by
    have region := slice_congr same
    rwa [slice, slice, List.drop_take, List.drop_take, Nat.add_sub_cancel_left] at region
  rw [read?, read?, octets]

end Record

/-! ## Putting records back -/

/-- How many octets stand behind the end of a file of `size` octets, `k` of which did before, when a
record is put back at a place. -/
def overhang (size k : Nat) (place : Nat × Nat) : Nat :=
  max k (min place.1 (size + k) + place.2 - size)

section
variable {b : Bytes}

/-- A record put back changes no octet. It may leave zeros behind the end. -/
theorem putBack_eq {r : Record} (isFrom : r.IsFrom b) (k : Nat) :
    Checksum.putBack (b ++ zeros k) r = b ++ zeros (overhang b.length k r.place) := by
  have front : ((b ++ zeros k).take r.offset).length = min r.offset (b.length + k) := by
    rw [List.length_take, List.length_append, length_zeros]
  unfold Checksum.putBack
  refine ext_octetAt ?_ fun n _ => ?_
  · simp only [overhang, Record.place, List.length_append, front, List.length_drop, length_zeros]
    omega
  · rw [octetAt_append_zeros]
    rcases lt_or_ge n (min r.offset (b.length + k)) with before | behind
    · rw [List.append_assoc, octetAt_append_left (by rwa [front]), octetAt_take (by omega),
        octetAt_append_zeros]
    · rw [List.append_assoc, octetAt_append_right (by rwa [front]), front]
      rcases lt_or_ge (n - min r.offset (b.length + k)) r.octets.length with inside | past
      · rw [octetAt_append_left inside, isFrom _ inside]
        rcases le_total r.offset (b.length + k) with near | far
        · rw [min_eq_left near] at behind ⊢
          rw [Nat.add_sub_cancel' behind]
        · rw [octetAt_of_length_le (by omega), octetAt_of_length_le (by omega)]
      · rw [octetAt_append_right past, octetAt_drop, octetAt_append_zeros]
        rcases le_total r.offset (b.length + k) with near | far
        · rw [min_eq_left near] at behind past ⊢
          congr 1
          omega
        · rw [octetAt_of_length_le (by omega), octetAt_of_length_le (by omega)]

/-- Records put back one after the other leave the octets as they are, and zeros behind them. -/
theorem foldl_putBack {records : List Record} (isFrom : ∀ r ∈ records, r.IsFrom b) (k : Nat) :
    records.foldl Checksum.putBack (b ++ zeros k)
      = b ++ zeros ((records.map Record.place).foldl (overhang b.length) k) := by
  induction records generalizing k with
  | nil => rfl
  | cons r records ih =>
    obtain ⟨first, others⟩ := List.forall_mem_cons.1 isFrom
    rw [List.foldl_cons, putBack_eq first, ih others, List.map_cons, List.foldl_cons]

/-- A record inside the file leaves nothing behind its end. -/
theorem foldl_overhang_of_inside {size : Nat} {places : List (Nat × Nat)}
    (inside : ∀ p ∈ places, p.1 + p.2 ≤ size) (k : Nat) :
    places.foldl (overhang size) k = k := by
  induction places with
  | nil => rfl
  | cons p places ih =>
    obtain ⟨first, others⟩ := List.forall_mem_cons.1 inside
    have kept : overhang size k p = k := by
      unfold overhang
      omega
    rw [List.foldl_cons, kept, ih others]

/-- Each record leaves no more behind the end than it has octets. -/
theorem foldl_overhang_le {size : Nat} (places : List (Nat × Nat)) (k : Nat) :
    places.foldl (overhang size) k ≤ k + (places.map (·.2)).sum := by
  induction places generalizing k with
  | nil => exact Nat.le_refl k
  | cons p places ih =>
    have first : overhang size k p ≤ k + p.2 := by
      unfold overhang
      omega
    have others := ih (overhang size k p)
    rw [List.foldl_cons, List.map_cons, List.sum_cons]
    omega

end

/-! ## The records of an image -/

namespace Headers

section
variable {b : Bytes}

/-- Where the records of a directory stand in a file of `size` octets. -/
def directoryPlaces (size : Nat) : Nat → Nat → List (Nat × Nat)
  | 0, _ => []
  | n + 1, offset => if size = offset then [] else (offset, 8) :: directoryPlaces size n (offset + 8)

/-- Where the records stand that come before those of the sections. -/
def mainPlaces (b : Bytes) : List (Nat × Nat) :=
  [(0, 64), (numberIn b 60 4, 4), (numberIn b 60 4 + 4, 20), (optionalStart b, 96)]
    ++ (if optionalSize b = 112 then [(optionalStart b, 112)] else [])
    ++ directoryPlaces b.length (min 16 (announcedIn b)) (optionalStart b + optionalSize b)

/-- How many octets the headers run past the end of a file. -/
def excess (b : Bytes) : Nat := (mainPlaces b).foldl (overhang b.length) 0

/-- The entries of a directory stand one behind the other. -/
theorem readDirectory_places (n offset : Nat) :
    (∀ r ∈ readDirectory b n offset, r.IsFrom b) ∧
      (readDirectory b n offset).map Record.place = directoryPlaces b.length n offset := by
  induction n generalizing offset with
  | zero => simp [readDirectory, directoryPlaces]
  | succ n ih =>
    obtain ⟨others, places⟩ := ih (offset + 8)
    rw [readDirectory, directoryPlaces]
    by_cases atEnd : b.length = offset
    · simp [atEnd]
    · have width : (List.take 8 (b.drop offset)
          ++ zeros (8 - (List.take 8 (b.drop offset)).length)).length = 8 := by
        rw [List.length_append, List.length_take, length_zeros]
        omega
      rw [if_neg atEnd, if_neg atEnd, List.map_cons, places, List.forall_mem_cons]
      exact ⟨⟨Record.isFrom_filled, others⟩, by rw [Record.place, width]⟩

/-- The headers of sections lie inside the file. -/
theorem readSections_inside {optional : Record} {n number offset : Nat} {sections : List Record}
    (h : readSections b optional n number offset = .ok sections) :
    ∀ s ∈ sections, s.IsFrom b ∧ s.offset + s.octets.length ≤ b.length := by
  induction n generalizing number offset sections with
  | zero =>
    obtain rfl := Except.ok.inj h
    simp
  | succ n ih =>
    unfold readSections at h
    dsimp only at h
    split at h
    · obtain rfl := Except.ok.inj h
      simp
    · split at h
      · cases h
      · rename_i full
        have width : ((b.drop offset).take sectionSize).length = sectionSize := by
          rw [List.length_take] at full ⊢
          omega
        have whole : b.length - offset ≥ sectionSize := by
          rw [List.length_take, List.length_drop] at width
          omega
        have first : Record.IsFrom ⟨offset, (b.drop offset).take sectionSize⟩ b ∧
            offset + ((b.drop offset).take sectionSize).length ≤ b.length := by
          refine ⟨?_, ?_⟩
          · have filled := @Record.isFrom_filled b offset sectionSize
            rwa [width, Nat.sub_self, zeros, List.replicate_zero, List.append_nil] at filled
          · rw [width]
            unfold sectionSize at whole ⊢
            omega
        split at h
        · obtain rfl := Except.ok.inj h
          simpa using first
        · obtain ⟨rest, read, rfl⟩ := Outcome.map_eq_ok.1 h
          exact List.forall_mem_cons.2 ⟨first, ih read⟩

/-- The records of headers that were read, put back where they stand. -/
theorem foldl_records {h : Headers} (accepted : read b = .ok h) :
    h.records.foldl Checksum.putBack b = b ++ zeros (excess b) := by
  obtain ⟨p, rfl⟩ := read_eq_ok_iff.1 accepted
  obtain ⟨short_from, short_place⟩ := Record.isFrom_of_read? p.short_read
  obtain ⟨signature_from, signature_place⟩ := Record.isFrom_of_read? p.signature_read
  obtain ⟨file_from, file_place⟩ := Record.isFrom_of_read? p.file_read
  obtain ⟨directory_from, directory_places⟩ :=
    @readDirectory_places b (min 16 (announcedIn b)) (optionalStart b + optionalSize b)
  have sections := readSections_inside p.sections_read
  have optionals : (∀ r ∈ p.optionals, r.IsFrom b) ∧ p.optionals.map Record.place
      = (optionalStart b, 96) :: if optionalSize b = 112 then [(optionalStart b, 112)] else [] := by
    obtain ⟨short, found, ⟨layout, -, records⟩ | ⟨layout, found', records⟩⟩ :=
      readOptional_eq_ok_iff.1 p.optional_read
    · obtain ⟨isFrom, place⟩ := Record.isFrom_of_read? found
      simp [records, optionalSize, layout, isFrom, place]
    · obtain ⟨isFrom, place⟩ := Record.isFrom_of_read? found
      obtain ⟨from', place'⟩ := Record.isFrom_of_read? found'
      simp [records, optionalSize, layout, isFrom, place, from', place']
  have all : ∀ r ∈ p.headers.records, r.IsFrom b := by
    simp only [Parts.headers, directoryRecords, List.mem_append, List.mem_cons, List.not_mem_nil,
      or_false]
    rintro r ((((rfl | rfl | rfl) | m) | m) | m)
    · exact short_from
    · exact signature_from
    · exact file_from
    · exact optionals.1 r m
    · exact directory_from r m
    · exact (sections r m).1
  have places : p.headers.records.map Record.place = mainPlaces b ++ p.sections.map Record.place := by
    simp [Parts.headers, directoryRecords, mainPlaces, short_place, signature_place, file_place,
      optionals.2, directory_places]
  have inside : ∀ q ∈ p.sections.map Record.place, q.1 + q.2 ≤ b.length := by
    simpa [Record.place] using fun s m => (sections s m).2
  have put := foldl_putBack all 0
  rw [places, List.foldl_append, foldl_overhang_of_inside inside] at put
  simpa [zeros, excess] using put

/-- The entries of the directory take eight octets each. -/
theorem sum_directoryPlaces_le (size n offset : Nat) :
    ((directoryPlaces size n offset).map (·.2)).sum ≤ 8 * n := by
  induction n generalizing offset with
  | zero => simp [directoryPlaces]
  | succ n ih =>
    have rest := ih (offset + 8)
    rw [directoryPlaces]
    split
    · simp
    · rw [List.map_cons, List.sum_cons]
      omega

/-- The headers run a few octets past the end of a file at most. -/
theorem excess_le (b : Bytes) : excess b ≤ 424 := by
  have counted := sum_directoryPlaces_le b.length (min 16 (announcedIn b))
    (optionalStart b + optionalSize b)
  have widths := @foldl_overhang_le b.length (mainPlaces b) 0
  have total : ((mainPlaces b).map (·.2)).sum ≤ 424 := by
    simp only [mainPlaces, List.map_append, List.map_cons, List.map_nil, List.sum_append,
      List.sum_cons, List.sum_nil]
    split
    · simp only [List.map_cons, List.map_nil, List.sum_cons, List.sum_nil]
      omega
    · simp only [List.map_nil, List.sum_nil]
      omega
  unfold excess
  omega

/-- A checksum is little more than the length. -/
theorem checksum_lt {x : Nat} (summed : Checksum.checksum b = .ok x) : x < b.length + 2 ^ 17 := by
  obtain ⟨h, accepted, rfl⟩ := Outcome.map_eq_ok.1 summed
  have few := excess_le b
  have folded (sum : Nat) : Checksum.fold sum < 2 ^ 16 := Nat.mod_lt _ (by decide)
  have bound := folded (Checksum.sum (h.checksum / 4) (b ++ zeros (excess b)))
  rw [Checksum.ofHeaders, foldl_records accepted, List.length_append, length_zeros]
  omega

end

/-! ## Where only the checksum is another -/

section
variable {a b : Bytes} {c e : Nat}

/-- What stands behind the last section does not depend on the checksum. -/
theorem HasFields.excess_congr (h : HasFields a c e) (length : b.length = a.length)
    (same : ∀ n, n < c ∨ c + 4 ≤ n → octetAt b n = octetAt a n) : excess b = excess a := by
  obtain ⟨start, size, announced⟩ := h.numbers_congr fun n _ => same n
  have offset : numberIn b 60 4 = numberIn a 60 4 := by
    unfold optionalStart at start
    omega
  unfold excess mainPlaces
  rw [start, size, announced, offset, length]

/-- Sections are read alike where the same octets stand behind the headers. -/
theorem readSections_congr {optional optional' : Record} (length : b.length = a.length)
    (alignment : optional'.field 32 4 = optional.field 32 4)
    (fileAlignment : optional'.field 36 4 = optional.field 36 4) {n number offset : Nat}
    (same : ∀ k, offset ≤ k → b[k]? = a[k]?) :
    readSections b optional' n number offset = readSections a optional n number offset := by
  induction n generalizing number offset with
  | zero => rfl
  | succ n ih =>
    have octets : b.drop offset = a.drop offset := by
      refine List.ext_getElem? fun k => ?_
      rw [List.getElem?_drop, List.getElem?_drop, same _ (Nat.le_add_right ..)]
    have odd (s : Record) : oddities b.length optional' s = oddities a.length optional s := by
      unfold oddities
      rw [length, alignment, fileAlignment]
    unfold readSections
    dsimp only
    rw [octets, odd, ih fun k far => same k (by unfold sectionSize at far; omega)]

/-- The optional header, in which the checksum stands, is read again where only the checksum is another,
and says the same of the alignments. -/
theorem exists_readOptional_of_agree {origin : Nat} {optional : Record} {optionals : List Record}
    (accepted : readOptional a origin = .ok (optional, optionals)) (place : origin + 64 = c)
    (length : b.length = a.length) (same : ∀ n, n < c ∨ c + 4 ≤ n → b[n]? = a[n]?) :
    ∃ optional' optionals', readOptional b origin = .ok (optional', optionals') ∧
      optional'.field 32 4 = optional.field 32 4 ∧ optional'.field 36 4 = optional.field 36 4 := by
  have number {i width : Nat} (outside : i + width ≤ c) : numberIn b i width = numberIn a i width :=
    numberIn_congr fun k small => by rw [octetAt, octetAt, same (i + k) (.inl (by omega))]
  have again {size least : Nat} {r : Record} (found : Record.read? a origin size least = some r) :
      ∃ r', Record.read? b origin size least = some r' := by
    rw [Record.exists_read?_iff, length]
    exact Record.exists_read?_iff.1 ⟨r, found⟩
  have field {r r' : Record} {size least : Nat} (width : 40 ≤ size)
      (found : Record.read? a origin size least = some r)
      (found' : Record.read? b origin size least = some r') :
      r'.field 32 4 = r.field 32 4 ∧ r'.field 36 4 = r.field 36 4 := by
    rw [Record.field_eq found (by omega), Record.field_eq found (by omega),
      Record.field_eq found' (by omega), Record.field_eq found' (by omega)]
    exact ⟨number (by omega), number (by omega)⟩
  have layout : numberIn b origin 2 = numberIn a origin 2 := number (by omega)
  obtain ⟨short, found, ⟨plain, shown, -⟩ | ⟨long, found', -⟩⟩ := readOptional_eq_ok_iff.1 accepted
  · obtain ⟨short', foundAgain⟩ := again found
    obtain ⟨alignment, fileAlignment⟩ := field (by decide) found foundAgain
    exact ⟨short', [short'], readOptional_eq_ok_iff.2
      ⟨short', foundAgain, .inl ⟨layout ▸ plain, rfl, rfl⟩⟩, shown ▸ alignment,
      shown ▸ fileAlignment⟩
  · obtain ⟨short', foundAgain⟩ := again found
    obtain ⟨long', foundAgain'⟩ := again found'
    obtain ⟨alignment, fileAlignment⟩ := field (by decide) found' foundAgain'
    exact ⟨long', [short', long'], readOptional_eq_ok_iff.2
      ⟨short', foundAgain, .inr ⟨layout.trans long, foundAgain', rfl⟩⟩, alignment, fileAlignment⟩

/-- Headers can still be read where only the checksum is another, if the headers of the sections
stand behind it. -/
theorem exists_read_of_agree {h : Headers} (accepted : read a = .ok h) (fields : HasFields a c e)
    (length : b.length = a.length) (same : ∀ n, n < c ∨ c + 4 ≤ n → b[n]? = a[n]?)
    (behind : c + 4 ≤ sectionsStart a) : ∃ h', read b = .ok h' := by
  obtain ⟨p, rfl⟩ := read_eq_ok_iff.1 accepted
  have late := fields.checksum_ge
  have octet {n : Nat} (outside : n < c ∨ c + 4 ≤ n) : octetAt b n = octetAt a n := by
    rw [octetAt, octetAt, same n outside]
  have number {i width : Nat} (outside : i + width ≤ c ∨ c + 4 ≤ i) :
      numberIn b i width = numberIn a i width :=
    numberIn_congr fun k small => octet (by omega)
  obtain ⟨start, -, -⟩ := fields.numbers_congr fun n _ => octet
  have place := fields.checksum
  have offset : numberIn b 60 4 = numberIn a 60 4 := by
    unfold optionalStart at start
    omega
  have before : numberIn a 60 4 + 88 = c := by
    unfold optionalStart at place
    omega
  have unchanged {origin size least : Nat} (early : origin + size ≤ c) :
      Record.read? b origin size least = Record.read? a origin size least :=
    Record.read?_congr fun n _ small => same n (by omega)
  -- the optional header holds the checksum; it says the same of the alignments
  obtain ⟨optional, optionals, optional_read, alignment, fileAlignment⟩ :=
    exists_readOptional_of_agree p.optional_read place.symm length same
  rw [← start] at optional_read
  have count : numberIn b (numberIn a 60 4 + 6) 2 = numberIn a (numberIn a 60 4 + 6) 2 :=
    number (by omega)
  have sections : sectionsStart b = sectionsStart a := by
    unfold sectionsStart
    rw [start, offset, number (by omega)]
  have short_read : Record.read? b 0 64 64 = some p.short := by
    rw [unchanged (by omega), p.short_read]
  have signature_read : Record.read? b (numberIn b 60 4) 4 4 = some p.signature := by
    rw [offset, unchanged (by omega), p.signature_read]
  have file_read : Record.read? b (numberIn b 60 4 + 4) 20 20 = some p.file := by
    rw [offset, unchanged (by omega), p.file_read]
  have sections_read : readSections b optional
      (min maxSections (numberIn b (numberIn b 60 4 + 6) 2)) 0 (sectionsStart b)
        = .ok p.sections := by
    rw [sections, offset, count, readSections_congr length alignment fileAlignment
      fun k far => same k (by omega), p.sections_read]
  let q : Parts b := ⟨p.short, p.signature, p.file, optional, optionals, p.sections, short_read,
    p.short_magic, by rw [offset, length]; exact p.inside, signature_read, p.signature_magic,
    file_read, optional_read, sections_read⟩
  exact ⟨q.headers, read_eq_ok_iff.2 ⟨q, rfl⟩⟩

end

end Headers

end ImageSigning
