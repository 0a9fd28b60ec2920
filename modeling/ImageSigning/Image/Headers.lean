import ImageSigning.Bytes

/-!
# Headers of an image

An image begins with a short header that says where the main headers start. Those are a signature, a
file header, and an optional header in one of two layouts, followed by a directory of addresses and
sizes and by the headers of the sections. Signing needs three things of all this: where the checksum
is, where the directory entry for the certificate table is, and what that entry says. The rest is
read only as far as an image that is damaged there is refused.

A header may run past the end of the file if enough of it is there; the rest is taken as zeros. Such
a header counts as part of the image when its checksum is computed, which is why the records keep
their octets.

* `Headers.read`: the headers of an image, or why there are none.
* `Directory.read`: at most sixteen entries; reading stops where the file ends at an entry.
-/

namespace ImageSigning

/-- Why octets are no image. -/
inductive HeaderProblem where
  | noShortHeader
  | noMainHeaders
  | noFileHeader
  | noOptionalHeader
  | sectionCut (number : Nat)
  deriving DecidableEq, Repr

/-- The problem in words. -/
def HeaderProblem.wording : HeaderProblem → String
  | noShortHeader => "no header at the beginning"
  | noMainHeaders => "no main headers"
  | noFileHeader => "the file header is cut short"
  | noOptionalHeader => "no optional header"
  | sectionCut number => s!"the header of section {number} is cut short"

/-- Octets at their place in an image. -/
structure Record where
  /-- Where the octets stand. -/
  offset : Nat
  /-- The octets. -/
  octets : Bytes
  deriving DecidableEq, Repr

/-- The number in `width` octets of a record, least significant first. -/
def Record.field (r : Record) (distance width : Nat) : Nat :=
  Bytes.toNatLE (r.octets.slice distance (distance + width))

/-- A record of `size` octets. Where the file ends before it but not before `least` octets of it, zeros
take the place of what is missing. -/
def Record.read? (data : Bytes) (offset size least : Nat) : Option Record :=
  let octets := (data.drop offset).take size
  if octets.length < min least size then none
  else some ⟨offset, octets ++ Bytes.zeros (size - octets.length)⟩

/-- An entry of the directory. -/
structure DirectoryEntry where
  /-- Where the entry stands. -/
  offset : Nat
  /-- The address in it. -/
  address : Nat
  /-- The size in it. -/
  size : Nat
  deriving DecidableEq, Repr

/-- The headers of an image. -/
structure Headers where
  /-- Where the optional header stands. -/
  optional : Nat
  /-- The directory. -/
  directory : List DirectoryEntry
  /-- The records that were read, in order. -/
  records : List Record
  deriving DecidableEq, Repr

/-- Octets from the beginning of the optional header to the checksum, in both layouts. -/
def checksumDistance : Nat := 64

/-- The number of the directory entry for the certificate table. -/
def certificateTableIndex : Nat := 4

namespace Headers

/-- The optional header. It is read in the short layout first, and again in the long layout if its
first number says so; every record that was read counts. -/
def readOptional (data : Bytes) (offset : Nat) : Except HeaderProblem (Record × List Record) :=
  match Record.read? data offset 96 69 with
  | none => .error .noOptionalHeader
  | some short =>
    if short.field 0 2 ≠ 0x20b then .ok (short, [short])
    else
      match Record.read? data offset 112 73 with
      | none => .error .noOptionalHeader
      | some long => .ok (long, [short, long])

/-- How many directory entries an optional header announces. -/
def announced (optional : Record) : Nat :=
  optional.field (if optional.octets.length = 96 then 92 else 108) 4 % 0x80000000

/-- The records of at most `n` directory entries from `offset` on. -/
def readDirectory (data : Bytes) : Nat → Nat → List Record
  | 0, _ => []
  | n + 1, offset =>
    if data.length = offset then []
    else
      let octets := (data.drop offset).take 8
      ⟨offset, octets ++ Bytes.zeros (8 - octets.length)⟩ :: readDirectory data n (offset + 8)

/-- The entry in a record. -/
def entryOf (r : Record) : DirectoryEntry := ⟨r.offset, r.field 0 4, r.field 4 4⟩

/-- A number rounded down to a multiple of `step`; zero leaves it as it is. -/
def roundDown (n step : Nat) : Nat := if step = 0 then n else n / step * step

/-- How many things are odd about a section in a file of `size` octets. -/
def oddities (size : Nat) (optional : Record) (s : Record) : Nat :=
  let sectionAlignment := optional.field 32 4
  let fileAlignment := optional.field 36 4
  let alignment := if sectionAlignment < 0x1000 then fileAlignment else sectionAlignment
  let pointer := s.field 20 4
  let found : List Bool :=
    [decide (size < s.field 16 4 + pointer),
      decide (size < (if fileAlignment < 512 then pointer else roundDown pointer 512)),
      decide (0x10000000 < s.field 8 4),
      decide (0x10000000 < roundDown (s.field 12 4) alignment),
      decide (fileAlignment ≠ 0 ∧ pointer % fileAlignment ≠ 0)]
  found.count true

/-- Octets of a section's header. -/
def sectionSize : Nat := 40

/-- The oddities at which no further section is read. -/
def maxOddities : Nat := 3

/-- The most sections that are read. -/
def maxSections : Nat := 2048

/-- The headers of at most `n` sections from `offset` on. A header of zeros ends them, and so does a
section that is too odd. -/
def readSections (data : Bytes) (optional : Record) :
    Nat → Nat → Nat → Except HeaderProblem (List Record)
  | 0, _, _ => .ok []
  | n + 1, number, offset =>
    let octets := (data.drop offset).take sectionSize
    if octets = Bytes.zeros sectionSize ∨ octets = [] then .ok []
    else if octets.length < sectionSize then .error (.sectionCut number)
    else
      let s : Record := ⟨offset, octets⟩
      if maxOddities ≤ oddities data.length optional s then .ok [s]
      else (readSections data optional n (number + 1) (offset + sectionSize)).map (s :: ·)

/-- The headers of an image. -/
def read (data : Bytes) : Except HeaderProblem Headers := do
  let short ← match Record.read? data 0 64 64 with
    | some r => pure r
    | none => throw .noShortHeader
  if short.octets.take 2 ≠ Bytes.ofAscii "MZ" then throw .noShortHeader
  let start := short.field 60 4
  if data.length < start then throw .noMainHeaders
  let signature ← match Record.read? data start 4 4 with
    | some r => pure r
    | none => throw .noMainHeaders
  if signature.octets ≠ Bytes.ofAscii "PE\x00\x00" then throw .noMainHeaders
  let file ← match Record.read? data (start + 4) 20 20 with
    | some r => pure r
    | none => throw .noFileHeader
  let origin := start + 24
  let (optional, optionals) ← readOptional data origin
  let directory := readDirectory data (min 16 (announced optional)) (origin + optional.octets.length)
  let sections ← readSections data optional (min maxSections (file.field 2 2)) 0
    (origin + file.field 16 2)
  return ⟨origin, directory.map entryOf, [short, signature, file] ++ optionals ++ directory ++ sections⟩

/-- Where the checksum stands. -/
def checksum (h : Headers) : Nat := h.optional + checksumDistance

/-- The directory entry for the certificate table. -/
def certificateTable? (h : Headers) : Option DirectoryEntry := h.directory[certificateTableIndex]?

end Headers

end ImageSigning
