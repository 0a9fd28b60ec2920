import ImageSigning.CertificateTable
import ImageSigning.Image.Checksum
import ImageSigning.Image.Regions
import ImageSigning.Store
import ImageSigning.World

/-!
# Images

An image that is being signed is its octets without the certificate table, the places of the two
header fields that signing changes, and its signatures. Loading splits a file into these; writing
puts them together again with both fields brought up to date.

* `Image.split`: the octets and the certificate table of a file.
* `Image.load`: keeps every entry of the table, decoded where it can be.
* `Image.toBytes`: the octets, the table, and the two fields.
-/

namespace ImageSigning

/-- An image. -/
structure Image where
  /-- The path that the image was loaded from. -/
  path : String
  /-- The octets without the certificate table. -/
  data : Bytes
  /-- Where the checksum stands. -/
  checksum : Int
  /-- Where the directory entry for the certificate table stands. -/
  entry : Int
  /-- The signatures. -/
  signatures : Store
  deriving DecidableEq, Repr

namespace Image

/-! ### Loading -/

/-- A file split at its certificate table. -/
structure Split where
  /-- The octets without the table. -/
  data : Bytes
  /-- The table. -/
  table : Bytes
  /-- Where the checksum stands. -/
  checksum : Nat
  /-- Where the directory entry for the table stands. -/
  entry : Nat
  deriving DecidableEq, Repr

/-- Splits a file at its certificate table, which has to be its end. -/
def split (path : String) (raw : Bytes) : Except LayoutProblem Split := do
  let headers ← (Headers.read raw).mapError fun p => .notImage path p.wording
  match headers.certificateTable? with
  | none => throw (.noTableDirectory path)
  | some e =>
    if e.size = 0 then return ⟨raw, [], headers.checksum, e.offset⟩
    else if e.address + e.size ≠ raw.length then
      throw (.tableNotAtEnd path e.address e.size raw.length)
    else if e.address < e.offset + directoryEntrySize then throw (.tableOverlapsHeaders path)
    else return ⟨raw.take e.address, raw.drop e.address, headers.checksum, e.offset⟩

/-- Adds a signature to the image. -/
def append (image : Image) (x : StoredSignature) : Image :=
  { image with signatures := image.signatures.append x }

/-- Stores octets as they are. -/
def storeUndecoded (path : String) (number : Nat) (content : Bytes) (p : SignatureProblem)
    (s : Store) : Run Store := do
  Run.tell (.signatureKept path number p.message)
  let x := StoredSignature.keep content p.message
  s.report x
  return s.append x

/-- Whether a problem with a name leaves the signature undecoded; other problems stop the loading. -/
def isForeignName (p : NameProblem) : Bool := (SignatureProblem.issuer p).isForeign

/-- Stores the content of a table entry: decoded, or as it is where it is no signature. A signature
whose signer cannot be told of is stored both ways. -/
def storeEntry (path : String) (number : Nat) (content : Bytes) (s : Store) : Run Store :=
  match Signature.decode content with
  | .error p =>
    if p.isForeign then storeUndecoded path number content p s
    else Run.defect (.signature p)
  | .ok decoded => do
    let x := StoredSignature.decoded decoded
    match s.announce x with
    | .ok e =>
      Run.tell e
      return s.append x
    | .error q =>
      if isForeignName q then storeUndecoded path number content (.issuer q) (s.append x)
      else Run.defect (.name q)

/-- Stores the contents of table entries, numbered from `number` on. -/
def storeEntries (path : String) : Nat → List Bytes → Store → Run Store
  | _, [], s => pure s
  | number, content :: r, s => do
    let s ← storeEntry path number content s
    storeEntries path (number + 1) r s

/-- A file that cannot be read. -/
def unreadable (path : String) : FileProblem → Fault
  | .system e => .failure (.reading (.imageUnreadable path e))
  | .nullCharacter => .defect .nullCharacter

/-- Loads an image. -/
def load (path : String) : Run Image := do
  let raw ← Run.lift (unreadable path) ((← get).files.read path)
  let parts ← Run.lift (fun p => .failure (.layout (some path) p)) (split path raw)
  let padding := paddingAfter parts.data.length
  if padding ≠ 0 then Run.tell (.imagePadded path parts.data.length padding)
  let data := parts.data ++ Bytes.zeros padding
  let reading := CertificateTable.read parts.table
  for (offset, revision) in reading.oddRevisions do Run.tell (.oddRevision offset revision)
  let contents ← Run.lift (fun p => .failure (.layout (some path) p)) reading.contents
  let signatures ← storeEntries path 0 contents .empty
  Run.tell (.imageLoaded path data.length signatures.count)
  return ⟨path, data, parts.checksum, parts.entry, signatures⟩

/-! ### The digest -/

/-- The regions that a digest covers. -/
def regions (image : Image) : Except LayoutProblem (List (Nat × Nat)) :=
  signableRegions image.data.length image.checksum image.entry

/-- The digest of the image. -/
def digest (image : Image) (a : DigestAlgorithm) : Run Digest := do
  let d ← Run.lift (fun p => .failure (.layout (some image.path) p))
    (imageDigest a image.data image.checksum image.entry)
  Run.tell (.digestComputed a.name image.path d.toHex)
  return d

/-! ### Writing -/

/-- The certificate table. -/
def certificateTable (image : Image) : Bytes :=
  CertificateTable.write (image.signatures.items.map (·.der))

/-- The least offset that no position in memory can have. -/
def offsetLimit : Int := 0x8000000000000000

/-- The position that an offset stands for; a negative one is counted from the end. -/
def position (size width : Nat) (offset : Int) : Except Defect Nat :=
  if offset < -offsetLimit ∨ offsetLimit ≤ offset then .error .offsetTooLarge
  else
    let place := if offset < 0 then offset + size else offset
    if place < 0 ∨ (size : Int) < place + width then .error .fieldMisplaced else .ok place.toNat

/-- Octets with some of them replaced. -/
def patch (data : Bytes) (offset : Nat) (octets : Bytes) : Bytes :=
  data.take offset ++ octets ++ data.drop (offset + octets.length)

/-- Octets with numbers of four octets each written at an offset. -/
def patchNumbers (data : Bytes) (offset : Int) (numbers : List Nat) : Except Defect Bytes := do
  if numbers.any (0x100000000 ≤ ·) then throw .fieldMisplaced
  let place ← position data.length (4 * numbers.length) offset
  return patch data place (numbers.flatMap (Bytes.ofNatLE 4))

/-- The octets of the signed image: the table behind the data, its place and size in the directory,
and the checksum of it all. -/
def toBytes (image : Image) : Except Defect Bytes := do
  let table := image.certificateTable
  let place := if table.isEmpty then [0, 0] else [image.data.length, table.length]
  let output := (← patchNumbers image.data image.entry place) ++ table
  let checksum ← (Checksum.checksum output).mapError fun _ => .notImage
  patchNumbers output image.checksum [checksum]

end Image

end ImageSigning
