import ImageSigning.Text.Base64
import ImageSigning.Text.Character
import ImageSigning.Text.Parts
import ImageSigning.Text.Utf8

/-!
# Labelled blocks of text

Keys and certificates are stored as text: between a line with `BEGIN` and a label and a line with
`END` and the same label stand the octets in base64, after headers if there are any. A file is a
series of such blocks with anything between them, and is refused as a whole if one of its blocks is
malformed.

* `splitAtRun?_length`: what follows a run is shorter than the octets that hold it.
* `Block.write`: the text of a block without headers.
-/

namespace ImageSigning.Pem

/-- Why a series of blocks is refused. -/
inductive Problem where
  | noBlock
  | noLabel
  | labelsDiffer (opening closing : String)
  | notText
  | headerMalformed (line : String)
  | notBase64
  deriving DecidableEq, Repr

/-- The problem in words. -/
def Problem.wording : Problem → String
  | noBlock => "MalformedFraming"
  | noLabel => "MissingBeginTag"
  | labelsDiffer opening closing => s!"MismatchedTags(\"{opening}\", \"{closing}\")"
  | notText => "NotUtf8"
  | headerMalformed line => s!"InvalidHeader(\"{line}\")"
  | notBase64 => "InvalidData"

/-- One block. -/
structure Block where
  /-- The label. -/
  label : String
  /-- The headers, each with a name and a value. -/
  headers : List (String × String)
  /-- The octets. -/
  contents : Bytes
  deriving DecidableEq, Repr

/-- What stands before and after the first occurrence of a run. -/
def splitAtRun? (run : Bytes) : Bytes → Option (Bytes × Bytes)
  | [] => if run.isEmpty then some ([], []) else none
  | x :: r =>
    if run.isPrefixOf (x :: r) then some ([], (x :: r).drop run.length)
    else (splitAtRun? run r).map fun (before, after) => (x :: before, after)

/-- What follows a run is at least as much shorter as the run is long. -/
theorem splitAtRun?_length {run b before after : Bytes}
    (h : splitAtRun? run b = some (before, after)) : after.length + run.length ≤ b.length := by
  induction b generalizing before with
  | nil =>
    simp only [splitAtRun?] at h
    split at h
    · rename_i empty
      simp_all
    · simp at h
  | cons x r ih =>
    simp only [splitAtRun?] at h
    split at h
    · rename_i starts
      simp only [Option.some.injEq, Prod.mk.injEq] at h
      have fits := (List.isPrefixOf_iff_prefix.1 starts).length_le
      rw [← h.2, List.length_drop]
      omega
    · obtain ⟨⟨b', a'⟩, found, eq⟩ := Option.map_eq_some_iff.1 h
      simp only [Prod.mk.injEq] at eq
      have := ih (show splitAtRun? run r = some (b', after) by rw [found, eq.2])
      simp
      omega

/-- What begins the line before a block. -/
def opening : Bytes := Bytes.ofAscii "-----BEGIN "

/-- What begins the line after a block. -/
def closing : Bytes := Bytes.ofAscii "-----END "

/-- What ends either line. -/
def dashes : Bytes := Bytes.ofAscii "-----"

/-- Blanks and line ends. -/
def isSpace (x : UInt8) : Bool := x = 32 || x = 9 || x = 10 || x = 13

/-- Every white space, which base64 may hold anywhere. The separators of records and fields count as
blanks elsewhere, but not here. -/
def isSpacing (c : Char) : Bool := Text.isBlank c && !('\x1c' ≤ c && c ≤ '\x1f')

/-- The parts of a block before they are looked at. -/
structure Capture where
  /-- The label of the line before. -/
  label : Bytes
  /-- What stands between the lines. -/
  body : Bytes
  /-- The label of the line after. -/
  closingLabel : Bytes

/-- The first block of a series and what follows it. -/
def capture? (b : Bytes) : Option (Capture × Bytes) := do
  let (_, r) ← splitAtRun? opening b
  let (label, r) ← splitAtRun? dashes r
  let (body, r) ← splitAtRun? closing (r.dropWhile isSpace)
  let (closingLabel, r) ← splitAtRun? dashes r
  some (⟨label, body, closingLabel⟩, r)

/-- Behind a block that was found less is left. -/
theorem capture?_length {b rest : Bytes} {c : Capture} (h : capture? b = some (c, rest)) :
    rest.length < b.length := by
  simp only [capture?, Option.bind_eq_bind, Option.bind_eq_some_iff, Prod.exists] at h
  obtain ⟨_, r₁, h₁, _, r₂, h₂, _, r₃, h₃, _, r₄, h₄, eq⟩ := h
  simp only [Option.some.injEq, Prod.mk.injEq] at eq
  have l₁ := splitAtRun?_length h₁
  have l₂ := splitAtRun?_length h₂
  have l₃ := splitAtRun?_length h₃
  have l₄ := splitAtRun?_length h₄
  have drop := (List.dropWhile_sublist isSpace (l := r₂)).length_le
  have long : 0 < opening.length := by decide
  rw [← eq.2]
  omega

/-- The blocks of a series before they are looked at. -/
def captures (b : Bytes) : List Capture :=
  match _h : capture? b with
  | none => []
  | some (c, rest) => c :: captures rest
termination_by b.length
decreasing_by exact capture?_length _h

/-- Headers and base64 of a body: an empty line parts them. -/
def splitBody (body : Bytes) : Bytes × Bytes :=
  match splitAtRun? [10, 10] body with
  | some parts => parts
  | none =>
    match splitAtRun? [13, 10, 13, 10] body with
    | some parts => parts
    | none => ([], body)

/-- The lines of a text, without their ends. -/
def lines (s : String) : List String :=
  let parts := Text.parts '\n' s
  let parts := if parts.getLast? = some "" then parts.dropLast else parts
  parts.map fun l => if l.endsWith "\r" then (l.dropEnd 1).toString else l

/-- A header line. -/
def header? (line : String) : Option (String × String) :=
  match Text.parts ':' line with
  | name :: v :: vs => some (name.trimAscii.toString, (":".intercalate (v :: vs)).trimAscii.toString)
  | _ => none

/-- The headers of a block. -/
def readHeaders (s : String) : Except Problem (List (String × String)) :=
  (lines s).mapM fun line =>
    match header? line with
    | some h => .ok h
    | none => .error (.headerMalformed line)

/-- Octets as text. -/
def text (b : Bytes) : Except Problem String :=
  match Utf8.decode? b with
  | some s => .ok s
  | none => .error .notText

/-- A block from its parts. -/
def Block.ofCapture (c : Capture) : Except Problem Block := do
  let label ← text c.label
  if label.isEmpty then throw .noLabel
  let closingLabel ← text c.closingLabel
  if label ≠ closingLabel then throw (.labelsDiffer label closingLabel)
  let (head, tail) := splitBody c.body
  let letters := (← text tail).toList.filter fun c => !isSpacing c
  match Base64.decode? (Utf8.encode (String.ofList letters)) with
  | none => throw .notBase64
  | some contents => return ⟨label, ← readHeaders (← text head), contents⟩

/-- The blocks of a series, of which there has to be one. -/
def readAll (b : Bytes) : Except Problem (List Block) := do
  let blocks ← (captures b).mapM Block.ofCapture
  if blocks.isEmpty then throw .noBlock
  return blocks

/-- The value of the header with a given name. -/
def Block.header? (block : Block) (name : String) : Option String :=
  (block.headers.find? (·.1 = name)).map (·.2)

/-- The text of a block without headers. -/
def write (label : String) (contents : Bytes) : Bytes :=
  opening ++ Utf8.encode label ++ dashes ++ [10] ++ Base64.encode contents ++ [10]
    ++ closing ++ Utf8.encode label ++ dashes ++ [10]

end ImageSigning.Pem
