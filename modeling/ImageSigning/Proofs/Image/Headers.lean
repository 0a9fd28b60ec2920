import ImageSigning.Image.Headers
import ImageSigning.Proofs.Bytes
import ImageSigning.Proofs.Outcome

/-!
# Where the fields of an image stand

The places of the checksum and of the directory entry for the certificate table follow from three
numbers of the headers alone: where the main headers start, which layout the optional header has, and
how many directory entries it announces. Neither field overlaps any of the three, so filling the fields
in moves neither of them.

* **`HasFields`** — checksum and directory entry stand at the given places.
* **`read_eq_ok_iff`** — headers can be read exactly if all their parts are there.
* **`certificateTable?_eq_some`** — headers that were read have their fields where they say.
* **`HasFields.certificateTable?_eq`** — where headers can be read, they find the fields there.
* **`HasFields.congr`** — the places do not depend on what the fields hold, nor on what comes after.
-/

namespace ImageSigning

open Bytes

/-- A record of a file says what the file says there, with zeros behind the end of the file. -/
theorem Record.field_eq {data : Bytes} {r : Record} {offset size least distance width : Nat}
    (h : Record.read? data offset size least = some r) (inside : distance + width ≤ size) :
    r.field distance width = numberIn data (offset + distance) width := by
  unfold Record.read? at h
  dsimp only at h
  split at h
  · simp at h
  · obtain rfl := Option.some.inj h
    unfold Record.field
    rw [toNatLE_slice]
    refine numberIn_congr fun k small => ?_
    rw [octetAt_append_zeros, octetAt_take (by omega), octetAt_drop, Nat.add_assoc]

/-- A record has the octets that it is read with. -/
theorem Record.length_octets {data : Bytes} {r : Record} {offset size least : Nat}
    (h : Record.read? data offset size least = some r) : r.octets.length = size := by
  unfold Record.read? at h
  dsimp only at h
  split at h
  · simp at h
  · obtain rfl := Option.some.inj h
    have few : ((data.drop offset).take size).length ≤ size := by
      rw [List.length_take]
      omega
    rw [List.length_append, length_zeros]
    omega

namespace Headers

/-! ## The numbers that the places follow from -/

/-- Where the optional header starts. -/
def optionalStart (b : Bytes) : Nat := numberIn b 60 4 + 24

/-- Octets of the optional header, in the layout that its first number says. -/
def optionalSize (b : Bytes) : Nat := if numberIn b (optionalStart b) 2 = 0x20b then 112 else 96

/-- How many directory entries the end of the optional header announces. -/
def announcedIn (b : Bytes) : Nat :=
  numberIn b (optionalStart b + optionalSize b - 4) 4 % 0x80000000

/-- Checksum and directory entry for the certificate table stand at the given places. -/
structure HasFields (b : Bytes) (checksum entry : Nat) : Prop where
  checksum : checksum = optionalStart b + 64
  entry : entry = optionalStart b + optionalSize b + 32
  announced : 4 < announcedIn b

/-- The optional header has one of two sizes. -/
theorem optionalSize_eq (b : Bytes) : optionalSize b = 96 ∨ optionalSize b = 112 := by
  unfold optionalSize
  split
  · exact .inr rfl
  · exact .inl rfl

/-- The checksum stands behind the beginning of the headers. -/
theorem HasFields.checksum_ge {b : Bytes} {c e : Nat} (h : HasFields b c e) : 88 ≤ c := by
  have place := h.checksum
  unfold optionalStart at place
  omega

/-- The table's place in the directory stands behind the checksum. -/
theorem HasFields.entry_ge {b : Bytes} {c e : Nat} (h : HasFields b c e) : c + 64 ≤ e := by
  have places := (And.intro h.checksum h.entry)
  rcases optionalSize_eq b with size | size <;> omega

/-- The three numbers do not depend on what the fields hold, nor on what comes after them. -/
theorem HasFields.numbers_congr {a b : Bytes} {c e : Nat} (h : HasFields a c e)
    (same : ∀ n < e, n < c ∨ c + 4 ≤ n → octetAt b n = octetAt a n) :
    optionalStart b = optionalStart a ∧ optionalSize b = optionalSize a ∧
      announcedIn b = announcedIn a := by
  have late := h.checksum_ge
  have behind := h.entry_ge
  have checksum := h.checksum
  have entry := h.entry
  have start : optionalStart b = optionalStart a := by
    unfold optionalStart
    rw [numberIn_congr fun k small => same (60 + k) (by omega) (by omega)]
  have size : optionalSize b = optionalSize a := by
    unfold optionalSize
    rw [start, numberIn_congr fun k small => same (optionalStart a + k) (by omega) (by omega)]
  have wide : 96 ≤ optionalSize a := by
    rcases optionalSize_eq a with size | size <;> omega
  refine ⟨start, size, ?_⟩
  unfold announcedIn
  rw [start, size, numberIn_congr fun k small =>
    same (optionalStart a + optionalSize a - 4 + k) (by omega) (by omega)]

/-- The places do not depend on what the fields hold, nor on what comes after them. -/
theorem HasFields.congr {a b : Bytes} {c e : Nat} (h : HasFields a c e)
    (same : ∀ n < e, n < c ∨ c + 4 ≤ n → octetAt b n = octetAt a n) : HasFields b c e := by
  obtain ⟨start, size, announced⟩ := h.numbers_congr same
  exact ⟨by rw [start, h.checksum], by rw [start, size, h.entry], announced ▸ h.announced⟩

/-! ## What reading finds -/

/-- The optional header is one record in the short layout, or one in each layout. -/
theorem readOptional_eq_ok_iff {b : Bytes} {offset : Nat} {optional : Record}
    {records : List Record} : readOptional b offset = .ok (optional, records) ↔
    ∃ short, Record.read? b offset 96 69 = some short ∧
      ((numberIn b offset 2 ≠ 0x20b ∧ optional = short ∧ records = [short]) ∨
        (numberIn b offset 2 = 0x20b ∧ Record.read? b offset 112 73 = some optional ∧
          records = [short, optional])) := by
  unfold readOptional
  rcases found : Record.read? b offset 96 69 with _ | short
  · simp
  · have first : short.field 0 2 = numberIn b offset 2 := Record.field_eq found (by omega)
    dsimp only
    rw [first]
    by_cases layout : numberIn b offset 2 = 0x20b
    · rw [if_neg (not_not.2 layout)]
      rcases found' : Record.read? b offset 112 73 with _ | long
      · simp [layout]
      · have paired : long = optional ∧ [short, long] = records ↔
            long = optional ∧ records = [short, optional] := by
          constructor
          · rintro ⟨rfl, rfl⟩
            exact ⟨rfl, rfl⟩
          · rintro ⟨rfl, rfl⟩
            exact ⟨rfl, rfl⟩
        simpa [layout] using paired
    · simp [layout, eq_comm]

/-- The optional header is as long as its magic number says, and announces so many entries. -/
theorem readOptional_eq_ok {b : Bytes} {offset : Nat} {optional : Record} {records : List Record}
    (h : readOptional b offset = .ok (optional, records)) :
    optional.octets.length = (if numberIn b offset 2 = 0x20b then 112 else 96) ∧
    announced optional
      = numberIn b (offset + optional.octets.length - 4) 4 % 0x80000000 := by
  obtain ⟨short, found, ⟨layout, rfl, -⟩ | ⟨layout, found', -⟩⟩ := readOptional_eq_ok_iff.1 h
  · have size := Record.length_octets found
    rw [if_neg layout, announced, size, if_pos rfl, Record.field_eq found (by omega)]
    exact ⟨rfl, rfl⟩
  · have size := Record.length_octets found'
    rw [if_pos layout, announced, size, if_neg (by decide), Record.field_eq found' (by omega)]
    exact ⟨rfl, rfl⟩

/-- The records of the directory. -/
def directoryRecords (b : Bytes) : List Record :=
  readDirectory b (min 16 (announcedIn b)) (optionalStart b + optionalSize b)

/-- Where the headers of the sections start. -/
def sectionsStart (b : Bytes) : Nat := optionalStart b + numberIn b (numberIn b 60 4 + 20) 2

/-- The parts that have to be there for octets to be an image. -/
structure Parts (b : Bytes) where
  /-- The short header at the beginning. -/
  short : Record
  /-- The signature of the main headers. -/
  signature : Record
  /-- The file header. -/
  file : Record
  /-- The optional header. -/
  optional : Record
  /-- What was read to find the optional header. -/
  optionals : List Record
  /-- The headers of the sections. -/
  sections : List Record
  short_read : Record.read? b 0 64 64 = some short
  short_magic : short.octets.take 2 = Bytes.ofAscii "MZ"
  inside : numberIn b 60 4 ≤ b.length
  signature_read : Record.read? b (numberIn b 60 4) 4 4 = some signature
  signature_magic : signature.octets = Bytes.ofAscii "PE\x00\x00"
  file_read : Record.read? b (numberIn b 60 4 + 4) 20 20 = some file
  optional_read : readOptional b (optionalStart b) = .ok (optional, optionals)
  sections_read : readSections b optional
    (min maxSections (numberIn b (numberIn b 60 4 + 6) 2)) 0 (sectionsStart b) = .ok sections

/-- The headers that the parts make up. -/
def Parts.headers {b : Bytes} (p : Parts b) : Headers :=
  ⟨optionalStart b, (directoryRecords b).map entryOf,
    [p.short, p.signature, p.file] ++ p.optionals ++ directoryRecords b ++ p.sections⟩

/-- The size and the number of entries are those that the octets of the image say. -/
theorem Parts.announced_optional {b : Bytes} (p : Parts b) :
    p.optional.octets.length = optionalSize b ∧ announced p.optional = announcedIn b := by
  obtain ⟨size, count⟩ := readOptional_eq_ok p.optional_read
  have size : p.optional.octets.length = optionalSize b := size
  exact ⟨size, by rw [count, size, announcedIn]⟩

/-- Headers can be read exactly if all their parts are there. -/
theorem read_eq_ok_iff {b : Bytes} {h : Headers} : read b = .ok h ↔ ∃ p : Parts b, h = p.headers := by
  have shortField {short : Record} (found : Record.read? b 0 64 64 = some short) :
      short.field 60 4 = numberIn b 60 4 := by
    rw [Record.field_eq found (by omega), Nat.zero_add]
  have fileField {file : Record} (found : Record.read? b (numberIn b 60 4 + 4) 20 20 = some file) :
      file.field 2 2 = numberIn b (numberIn b 60 4 + 6) 2 ∧
        file.field 16 2 = numberIn b (numberIn b 60 4 + 20) 2 :=
    ⟨Record.field_eq found (by omega), Record.field_eq found (by omega)⟩
  unfold read
  dsimp only
  constructor
  · intro accepted
    split at accepted
    · rename_i short short_read
      rw [pure_bind, Outcome.failUnless_eq_ok, Outcome.failUnless_eq_ok, shortField short_read]
        at accepted
      obtain ⟨short_magic, inside, accepted⟩ := accepted
      split at accepted
      · rename_i signature signature_read
        rw [pure_bind, Outcome.failUnless_eq_ok] at accepted
        obtain ⟨signature_magic, accepted⟩ := accepted
        split at accepted
        · rename_i file file_read
          rw [pure_bind, (fileField file_read).1, (fileField file_read).2] at accepted
          obtain ⟨⟨optional, optionals⟩, optional_read, accepted⟩ := Outcome.bind_eq_ok.1 accepted
          obtain ⟨sections, sections_read, accepted⟩ := Outcome.bind_eq_ok.1 accepted
          let p : Parts b := ⟨short, signature, file, optional, optionals, sections, short_read,
            not_not.1 short_magic, not_lt.1 inside, signature_read, not_not.1 signature_magic,
            file_read, optional_read, sections_read⟩
          obtain rfl := Outcome.pure_eq_ok.1 accepted
          refine ⟨p, ?_⟩
          rw [p.announced_optional.1, p.announced_optional.2]
          rfl
        · simp [Outcome.throw_bind] at accepted
      · simp [Outcome.throw_bind] at accepted
    · simp [Outcome.throw_bind] at accepted
  · rintro ⟨p, rfl⟩
    have optional_read : readOptional b (numberIn b 60 4 + 24) = .ok (p.optional, p.optionals) :=
      p.optional_read
    rw [p.short_read]
    dsimp only
    rw [pure_bind, Outcome.failUnless_eq_ok, Outcome.failUnless_eq_ok, shortField p.short_read]
    refine ⟨not_not.2 p.short_magic, not_lt.2 p.inside, ?_⟩
    rw [p.signature_read]
    dsimp only
    rw [pure_bind, Outcome.failUnless_eq_ok]
    refine ⟨not_not.2 p.signature_magic, ?_⟩
    rw [p.file_read]
    dsimp only
    rw [pure_bind, (fileField p.file_read).1, (fileField p.file_read).2]
    refine Outcome.bind_eq_ok.2 ⟨_, optional_read, Outcome.bind_eq_ok.2 ⟨_, p.sections_read, ?_⟩⟩
    rw [p.announced_optional.1, p.announced_optional.2]
    rfl

/-- Reading finds the entries of the directory behind the optional header, sixteen at most. -/
theorem read_eq_ok {b : Bytes} {h : Headers} (accepted : read b = .ok h) :
    h.optional = optionalStart b ∧ h.directory
      = (readDirectory b (min 16 (announcedIn b)) (optionalStart b + optionalSize b)).map entryOf := by
  obtain ⟨p, rfl⟩ := read_eq_ok_iff.1 accepted
  exact ⟨rfl, rfl⟩

/-- An entry of the directory is the two numbers at its place. -/
theorem getElem?_readDirectory {b : Bytes} {n offset k : Nat} {r : Record}
    (h : (readDirectory b n offset)[k]? = some r) :
    k < n ∧ entryOf r = ⟨offset + 8 * k, numberIn b (offset + 8 * k) 4,
      numberIn b (offset + 8 * k + 4) 4⟩ := by
  induction n generalizing offset k with
  | zero => simp [readDirectory] at h
  | succ n ih =>
    rw [readDirectory] at h
    split at h
    · simp at h
    · match k with
      | 0 =>
        obtain rfl := Option.some.inj h
        have octets (m : Nat) (small : m < 8) : octetAt ((b.drop offset).take 8
            ++ zeros (8 - ((b.drop offset).take 8).length)) m = octetAt b (offset + m) := by
          rw [octetAt_append_zeros, octetAt_take small, octetAt_drop]
        refine ⟨Nat.succ_pos n, ?_⟩
        simp only [entryOf, Record.field, Nat.mul_zero, Nat.add_zero, DirectoryEntry.mk.injEq,
          true_and]
        constructor
        · rw [toNatLE_slice _ 0 4]
          exact numberIn_congr fun m small => by rw [octets _ (by omega), Nat.zero_add]
        · rw [toNatLE_slice _ 4 4]
          exact numberIn_congr fun m small => by rw [octets _ (by omega), Nat.add_assoc]
      | k + 1 =>
        obtain ⟨inside, entry⟩ := ih h
        refine ⟨Nat.succ_lt_succ inside, ?_⟩
        rw [entry, Nat.mul_succ, Nat.add_assoc, Nat.add_comm 8]

/-- Each entry that is announced and begins inside is there. -/
theorem exists_getElem?_readDirectory {b : Bytes} {n offset k : Nat} (inside : k < n)
    (there : offset + 8 * k < b.length) : ∃ r, (readDirectory b n offset)[k]? = some r := by
  induction n generalizing offset k with
  | zero => omega
  | succ n ih =>
    rw [readDirectory, if_neg (by omega)]
    match k with
    | 0 => exact ⟨_, rfl⟩
    | k + 1 => exact ih (by omega) (by omega)

/-- Headers that were read have their fields where they say. -/
theorem certificateTable?_eq_some {b : Bytes} {h : Headers} {e : DirectoryEntry}
    (accepted : read b = .ok h) (found : h.certificateTable? = some e) :
    HasFields b h.checksum e.offset ∧ e.address = numberIn b e.offset 4 ∧
      e.size = numberIn b (e.offset + 4) 4 := by
  obtain ⟨start, directory⟩ := read_eq_ok accepted
  rw [certificateTable?, directory, List.getElem?_map, Option.map_eq_some_iff] at found
  obtain ⟨r, there, rfl⟩ := found
  obtain ⟨inside, entry⟩ := getElem?_readDirectory there
  rw [entry]
  refine ⟨⟨?_, rfl, ?_⟩, rfl, rfl⟩
  · rw [checksum, start, checksumDistance]
  · exact lt_of_lt_of_le inside (min_le_right ..)

/-- Where headers can be read, they find the fields where those stand. -/
theorem HasFields.certificateTable?_eq {b : Bytes} {h : Headers} {c e : Nat}
    (fields : HasFields b c e) (there : e < b.length) (accepted : read b = .ok h) :
    h.checksum = c ∧
      h.certificateTable? = some ⟨e, numberIn b e 4, numberIn b (e + 4) 4⟩ := by
  obtain ⟨start, directory⟩ := read_eq_ok accepted
  have place : e = optionalStart b + optionalSize b + 8 * certificateTableIndex := fields.entry
  obtain ⟨r, here⟩ := exists_getElem?_readDirectory
    (lt_min (by decide : certificateTableIndex < 16) fields.announced) (place ▸ there)
  obtain ⟨-, entry⟩ := getElem?_readDirectory here
  rw [← place] at entry
  refine ⟨?_, ?_⟩
  · rw [Headers.checksum, start, fields.checksum, checksumDistance]
  · rw [Headers.certificateTable?, directory, List.getElem?_map, here, Option.map_some, entry]

end Headers

end ImageSigning
