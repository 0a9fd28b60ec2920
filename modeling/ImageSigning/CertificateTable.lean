import ImageSigning.Alignment
import ImageSigning.Bytes
import ImageSigning.Failure.Layout

/-!
# Certificate tables

The certificate table at the end of a signed image is a run of entries. An entry has a header of
eight octets (its length including the header, a revision, a type), the signature, and zeros up to
the next multiple of eight.

* `entry`: the entry for a signature.
* `read`: the contents of the entries, and where entries of another revision were met. The content of
  an entry runs up to its declared length; what lies between there and the next multiple of eight is
  passed over.
-/

namespace ImageSigning.CertificateTable

/-- Octets of an entry's header. -/
def headerSize : Nat := 8

/-- The revision that entries are written with. -/
def revision : Nat := 0x0200

/-- The type of an entry that holds signed data. -/
def signedDataType : Nat := 0x0002

/-- The entry that holds a signature. -/
def entry (signature : Bytes) : Bytes :=
  let total := alignUp (headerSize + signature.length)
  Bytes.ofNatLE 4 total ++ Bytes.ofNatLE 2 revision ++ Bytes.ofNatLE 2 signedDataType
    ++ signature ++ Bytes.zeros (paddingAfter (headerSize + signature.length))

/-- The table that holds the signatures in order. -/
def write (signatures : List Bytes) : Bytes := signatures.flatMap entry

/-- What reading a table finds. -/
structure Reading where
  /-- The contents of the entries, or the first problem. -/
  contents : Except LayoutProblem (List Bytes)
  /-- Offset and revision of the entries with another revision, up to the first problem. -/
  oddRevisions : List (Nat × Nat)

/-- A reading that goes on after an entry with the given content. -/
def Reading.cons (content : Bytes) (odd : List (Nat × Nat)) (rest : Reading) : Reading where
  contents := rest.contents.map (content :: ·)
  oddRevisions := odd ++ rest.oddRevisions

/-- Reads the entries from `offset` on, `left` being what the table holds there. -/
def readFrom : Nat → Nat → Bytes → Reading
  | _, _, [] => ⟨.ok [], []⟩
  | 0, offset, _ => ⟨.error (.truncatedEntry offset), []⟩
  | fuel + 1, offset, left =>
    if left.length < headerSize then ⟨.error (.truncatedEntry offset), []⟩
    else
      let length := Bytes.toNatLE (left.take 4)
      let entryRevision := Bytes.toNatLE (Bytes.slice left 4 6)
      let type := Bytes.toNatLE (Bytes.slice left 6 8)
      if length < headerSize ∨ left.length < length then
        ⟨.error (.invalidLength length offset), []⟩
      else if type ≠ signedDataType then ⟨.error (.unsupportedType type offset), []⟩
      else
        let odd := if entryRevision ≠ revision then [(offset, entryRevision)] else []
        .cons (Bytes.slice left headerSize length) odd
          (readFrom fuel (offset + alignUp length) (left.drop (alignUp length)))

/-- Reads a table. -/
def read (table : Bytes) : Reading := readFrom table.length 0 table

end ImageSigning.CertificateTable
