import ImageSigning.CertificateTable
import ImageSigning.Proofs.Bytes

/-!
# Reading a table that was written

The entries of a table that was written are read back in order, each with the zeros that fill it up.
Reading passes over one entry at a time, so the table may go on behind it with anything.

* **`padded`** — what an entry's content is read as.
* **`readFrom_entry`** — reading takes one entry and goes on behind it.
* **`read_write`** — a table that was written reads as the padded contents.
* **`write_eq_iff`** — a table tells the padded octets of its entries, and no more.
-/

namespace ImageSigning

/-- A multiple of eight is not rounded up. -/
theorem alignUp_of_dvd {n : Nat} (h : 8 ∣ n) : alignUp n = n := by
  unfold alignUp
  omega

/-- What follows a multiple of eight is rounded up on its own. -/
theorem alignUp_add {m : Nat} (h : 8 ∣ m) (n : Nat) : alignUp (m + n) = m + alignUp n := by
  unfold alignUp
  omega

/-- Padding fills up to the next multiple of eight. -/
theorem add_paddingAfter (n : Nat) : n + paddingAfter n = alignUp n := by
  have above := alignUp_ge n
  unfold paddingAfter
  omega

/-- Behind a multiple of eight there is no padding. -/
theorem paddingAfter_of_dvd {n : Nat} (h : 8 ∣ n) : paddingAfter n = 0 := by
  rw [paddingAfter, alignUp_of_dvd h, Nat.sub_self]

namespace CertificateTable

/-- A signature with the zeros that fill its entry up. -/
def padded (signature : Bytes) : Bytes :=
  signature ++ Bytes.zeros (paddingAfter (headerSize + signature.length))

/-- The header of an entry. -/
def entryHeader (signature : Bytes) : Bytes :=
  Bytes.ofNatLE 4 (alignUp (headerSize + signature.length)) ++ Bytes.ofNatLE 2 revision
    ++ Bytes.ofNatLE 2 signedDataType

/-- An entry is its header and the signature filled up. -/
theorem entry_eq (signature : Bytes) : entry signature = entryHeader signature ++ padded signature := by
  simp [entry, entryHeader, padded]

/-- The header has eight octets. -/
@[simp] theorem length_entryHeader (signature : Bytes) : (entryHeader signature).length = 8 := by
  simp [entryHeader]

/-- A signature is filled up so that its entry ends at a multiple of eight. -/
theorem length_padded (signature : Bytes) :
    8 + (padded signature).length = alignUp (headerSize + signature.length) := by
  rw [← add_paddingAfter, padded, List.length_append, Bytes.length_zeros, headerSize]
  omega

/-- Filling up goes on where it was left off. -/
theorem padded_append_zeros {der : Bytes} {j : Nat}
    (h : j ≤ paddingAfter (headerSize + der.length)) : padded (der ++ Bytes.zeros j) = padded der := by
  have rest : j + paddingAfter (headerSize + (der ++ Bytes.zeros j).length)
      = paddingAfter (headerSize + der.length) := by
    rw [List.length_append, Bytes.length_zeros]
    unfold paddingAfter alignUp at h ⊢
    omega
  rw [padded, padded, List.append_assoc, ← rest]
  simp [Bytes.zeros]

/-- An entry is as long as its header and its signature, rounded up. -/
theorem length_entry (signature : Bytes) :
    (entry signature).length = alignUp (headerSize + signature.length) := by
  rw [entry_eq, List.length_append, length_entryHeader, length_padded]

/-- What reading does where there is a header. -/
theorem readFrom_succ {left : Bytes} (h : headerSize ≤ left.length) (fuel offset : Nat) :
    readFrom (fuel + 1) offset left =
      if Bytes.toNatLE (left.take 4) < headerSize ∨ left.length < Bytes.toNatLE (left.take 4) then
        ⟨.error (.invalidLength (Bytes.toNatLE (left.take 4)) offset), []⟩
      else if Bytes.toNatLE (left.slice 6 8) ≠ signedDataType then
        ⟨.error (.unsupportedType (Bytes.toNatLE (left.slice 6 8)) offset), []⟩
      else .cons (left.slice headerSize (Bytes.toNatLE (left.take 4)))
        (if Bytes.toNatLE (left.slice 4 6) ≠ revision then
          [(offset, Bytes.toNatLE (left.slice 4 6))] else [])
        (readFrom fuel (offset + alignUp (Bytes.toNatLE (left.take 4)))
          (left.drop (alignUp (Bytes.toNatLE (left.take 4))))) := by
  rcases left with _ | ⟨x, r⟩
  · simp [headerSize] at h
  · rw [readFrom, if_neg (not_lt.2 h)]
    exact List.cons_ne_nil x r

/-- Reading takes one entry and goes on behind it. -/
theorem readFrom_entry {signature : Bytes} (h : (entry signature).length < 2 ^ 32) (fuel offset : Nat)
    (rest : Bytes) : readFrom (fuel + 1) offset (entry signature ++ rest)
      = .cons (padded signature) []
        (readFrom fuel (offset + (entry signature).length) rest) := by
  have size := length_entry signature
  have whole : 8 + (padded signature).length = (entry signature).length := by
    rw [size, length_padded]
  have aligned : alignUp (entry signature).length = (entry signature).length := by
    rw [size]
    exact alignUp_of_dvd (eight_dvd_alignUp _)
  have octets : entry signature ++ rest
      = Bytes.ofNatLE 4 (entry signature).length ++ (Bytes.ofNatLE 2 revision
        ++ (Bytes.ofNatLE 2 signedDataType ++ (padded signature ++ rest))) := by
    rw [size, entry_eq, entryHeader]
    simp
  have behind : (entry signature ++ rest).drop (entry signature).length = rest := List.drop_left ..
  generalize (entry signature).length = n at *
  have length : Bytes.toNatLE ((entry signature ++ rest).take 4) = n := by
    rw [octets, List.take_left' (Bytes.length_ofNatLE 4 n), Bytes.toNatLE_ofNatLE_of_lt h]
  have revisionRead : Bytes.toNatLE ((entry signature ++ rest).slice 4 6) = revision := by
    rw [octets, Bytes.slice_middle (Bytes.length_ofNatLE 4 n) (by rw [Bytes.length_ofNatLE]),
      Bytes.toNatLE_ofNatLE_of_lt (by decide)]
  have type : Bytes.toNatLE ((entry signature ++ rest).slice 6 8) = signedDataType := by
    rw [octets, ← List.append_assoc, Bytes.slice_middle (by simp) (by rw [Bytes.length_ofNatLE]),
      Bytes.toNatLE_ofNatLE_of_lt (by decide)]
  have content : (entry signature ++ rest).slice headerSize n = padded signature := by
    rw [octets, ← List.append_assoc, ← List.append_assoc]
    exact Bytes.slice_middle (by simp) whole rest
  have there : n ≤ (entry signature ++ rest).length := by
    rw [octets]
    simp
    omega
  have full : 8 ≤ n := by omega
  revert length revisionRead type content there behind
  generalize entry signature ++ rest = left
  intro behind length revisionRead type content there
  rw [readFrom_succ (le_trans full there), length, revisionRead, type, content, aligned, behind,
    if_neg (by rw [headerSize]; omega), if_neg (not_not_intro rfl), if_neg (not_not_intro rfl)]

/-- A table that was written reads as the padded contents, if each entry can tell its length. -/
theorem readFrom_write {signatures : List Bytes}
    (h : ∀ s ∈ signatures, (entry s).length < 2 ^ 32) {fuel : Nat}
    (enough : (write signatures).length ≤ fuel) (offset : Nat) :
    readFrom fuel offset (write signatures) = ⟨.ok (signatures.map padded), []⟩ := by
  induction signatures generalizing fuel offset with
  | nil => cases fuel <;> rfl
  | cons s signatures ih =>
    have shown : write (s :: signatures) = entry s ++ write signatures := List.flatMap_cons
    rw [shown] at enough ⊢
    have headed : 8 ≤ (entry s).length := by
      rw [length_entry, ← length_padded]
      omega
    rw [List.length_append] at enough
    match fuel with
    | 0 => omega
    | fuel + 1 =>
      have rest := ih (fun t m => h t (List.mem_cons_of_mem _ m)) (by omega : _ ≤ fuel)
        (offset + (entry s).length)
      rw [readFrom_entry (h s (List.mem_cons_self ..)), rest]
      rfl

/-- A table is at least as long as each of its entries. -/
theorem length_entry_le {signatures : List Bytes} {s : Bytes} (h : s ∈ signatures) :
    (entry s).length ≤ (write signatures).length := by
  obtain ⟨before, after, rfl⟩ := List.append_of_mem h
  simp [write]
  omega

/-- A table that was written reads as the padded contents. -/
theorem read_write {signatures : List Bytes} (h : (write signatures).length < 2 ^ 32) :
    read (write signatures) = ⟨.ok (signatures.map padded), []⟩ :=
  readFrom_write (fun _ m => lt_of_le_of_lt (length_entry_le m) h) le_rfl 0

/-- A table's length is a multiple of eight. -/
theorem eight_dvd_length_write (signatures : List Bytes) : 8 ∣ (write signatures).length := by
  induction signatures with
  | nil => exact Nat.dvd_zero 8
  | cons s signatures ih =>
    have shown : write (s :: signatures) = entry s ++ write signatures := List.flatMap_cons
    rw [shown, List.length_append, length_entry]
    exact Nat.dvd_add (eight_dvd_alignUp _) ih

/-- A table is empty exactly if it has no signatures. -/
theorem write_eq_nil_iff {signatures : List Bytes} : write signatures = [] ↔ signatures = [] := by
  constructor
  · intro nothing
    rcases signatures with _ | ⟨s, signatures⟩
    · rfl
    · have headed := length_entry_le (List.mem_cons_self (a := s) (l := signatures))
      rw [nothing, length_entry, ← length_padded, List.length_nil] at headed
      omega
  · rintro rfl
    rfl

/-! ## What a table tells -/

/-- Entries are the same exactly if their signatures are once they are filled up. -/
theorem entry_eq_iff {a b : Bytes} : entry a = entry b ↔ padded a = padded b := by
  have whole (s : Bytes) : entry s = Bytes.ofNatLE 4 (8 + (padded s).length)
      ++ Bytes.ofNatLE 2 revision ++ Bytes.ofNatLE 2 signedDataType ++ padded s := by
    rw [entry_eq, entryHeader, length_padded]
  constructor
  · intro same
    have dropped (s : Bytes) : (entry s).drop 8 = padded s := by
      rw [entry_eq, List.drop_left' (length_entryHeader s)]
    rw [← dropped a, same, dropped]
  · intro same
    rw [whole, whole, same]

/-- Contents that are filled up to the same octets are written alike. -/
theorem write_congr {as bs : List Bytes} (same : as.map padded = bs.map padded) :
    write as = write bs := by
  induction as generalizing bs with
  | nil =>
    rw [List.map_nil, eq_comm, List.map_eq_nil_iff] at same
    rw [same]
  | cons a as ih =>
    obtain ⟨b, bs', rfl, first, others⟩ := List.map_eq_cons_iff.1 same.symm
    change entry a ++ write as = entry b ++ write bs'
    rw [entry_eq_iff.2 first.symm, ih others.symm]

/-- A table tells the padded octets of its entries, and no more. -/
theorem write_eq_iff {as bs : List Bytes} (small : (write bs).length < 2 ^ 32) :
    write as = write bs ↔ as.map padded = bs.map padded := by
  constructor
  · intro same
    have read_as := read_write (same ▸ small : (write as).length < 2 ^ 32)
    have read_bs := read_write small
    rw [same, read_bs] at read_as
    exact (Except.ok.inj (congrArg Reading.contents read_as)).symm
  · exact write_congr

end CertificateTable

end ImageSigning
