import ImageSigning.Text.Utf8
import ImageSigning.Yaml.Cursor

/-!
# The text of scalars

A scalar is written plain, in quotes, or as an indented block. A line break inside a plain or quoted
scalar counts as a blank, and every further one as itself; blocks keep their line breaks or fold them
in the same way.

* `plain`, `quoted`, `block`: the text of a scalar in each of these forms.
-/

namespace ImageSigning.Yaml.Reader

/-- What a break and the empty lines behind it count as in a folded text. -/
def folded (first : Char) (others : List Char) : List Char :=
  if first ≠ '\n' then first :: others else if others.isEmpty then [' '] else others

/-! ### Plain scalars -/

/-- The characters of a plain scalar up to the next gap. Inside brackets more characters end it. -/
def plainRun (flow : Bool) : List Char → List Char
  | [] => []
  | c :: r =>
    let next := r.headD endMark
    let ends := isGap c || (c = ':' && (isGap next || (flow && [',', '[', ']', '{', '}'].contains next)))
      || (flow && [',', '?', '[', ']', '{', '}'].contains c)
    if ends then [] else c :: plainRun flow r

/-- The empty lines behind a break in a plain scalar; `none` if the document ends there. -/
def plainBreaks : Nat → List Char → Reader (Option (List Char))
  | 0, breaks => return some breaks
  | fuel + 1, breaks => do
    skipWhile (· = ' ')
    match ← lineBreak? with
    | none => return some breaks
    | some b =>
      if (← get).atDocumentMark then return none
      plainBreaks fuel (breaks ++ [b])

/-- The gap behind a run of a plain scalar, and whether it crosses lines. -/
def plainGap : Reader (List Char × Bool) := do
  let blanks ← takeWhile (· = ' ')
  match ← lineBreak? with
  | none => return (blanks, false)
  | some first =>
    if (← get).atDocumentMark then return ([], true)
    match ← plainBreaks (← get).fuel [] with
    | none => return ([], true)
    | some others => return (folded first others, true)

/-- The rest of a plain scalar, after the text read so far and a gap. -/
def plainRest (flow : Bool) (indent : Int) :
    Nat → List Char → List Char → Bool → Reader (String × Bool)
  | 0, text, _, crossed => return (String.ofList text, crossed)
  | fuel + 1, text, gap, crossed => do
    let c ← get
    let run := plainRun flow c.rest
    if c.peek = '#' ∨ run = [] then return (String.ofList text, crossed)
    set (c.advance run.length)
    let text := text ++ gap ++ run
    let (gap, crossed) ← plainGap
    let c ← get
    if gap = [] ∨ c.peek = '#' ∨ (!flow ∧ c.column < indent) then
      return (String.ofList text, crossed)
    plainRest flow indent fuel text gap crossed

/-- A plain scalar, and whether a line break follows it. -/
def plain (flow : Bool) (indent : Int) : Reader (String × Bool) := do
  plainRest flow indent (← get).fuel [] [] false

/-! ### Quoted scalars -/

/-- The characters that single letters stand for behind a backslash. -/
def escapes : List (Char × Char) :=
  [('0', '\x00'), ('a', '\x07'), ('b', '\x08'), ('t', '\t'), ('\t', '\t'), ('n', '\n'),
    ('v', '\x0b'), ('f', '\x0c'), ('r', '\r'), ('e', '\x1b'), (' ', ' '), ('"', '"'), ('\\', '\\'),
    ('/', '/'), ('N', '\x85'), ('_', '\xa0'), ('L', '\u2028'), ('P', '\u2029')]

/-- How many hexadecimal digits follow a letter behind a backslash. -/
def escapeWidths : List (Char × Nat) := [('x', 2), ('u', 4), ('U', 8)]

/-- The number in hexadecimal digits. -/
def hexNumber (digits : List Char) : Nat := digits.foldl (fun n c =>
  n * 16 + (if c.isDigit then c.toNat - '0'.toNat else c.toLower.toNat - 'a'.toNat + 10)) 0

/-- The greatest number of a character. -/
def maxCharacter : Nat := 0x10ffff

/-- A character given by `width` hexadecimal digits. -/
def numbered (width : Nat) : Reader (List Char) := do
  let digits := (← get).rest.take width
  if digits.length < width ∨ !digits.all isHexDigit then fail "expected hexadecimal digits"
  let n := hexNumber digits
  if maxCharacter < n then throw (.scalar .noSuchCharacter)
  skip width
  return [if n.isValidChar then Char.ofNat n else '\ufffd']

/-- The empty lines inside a quoted scalar. -/
def quotedBreaks : Nat → List Char → Reader (List Char)
  | 0, breaks => return breaks
  | fuel + 1, breaks => do
    if (← get).atDocumentMark then fail "the document ends inside a quoted scalar"
    skipWhile fun c => c = ' ' || c = '\t'
    match ← lineBreak? with
    | none => return breaks
    | some b => quotedBreaks fuel (breaks ++ [b])

/-- What stands behind a backslash. -/
def escaped : Reader (List Char) := do
  let c ← peek
  match escapes.lookup c, escapeWidths.lookup c with
  | some x, _ =>
    skip 1
    return [x]
  | none, some width =>
    skip 1
    numbered width
  | none, none =>
    match ← lineBreak? with
    | some _ => quotedBreaks (← get).fuel []
    | none => fail "unknown escape"

/-- The text of a quoted scalar up to the next gap or the closing quote. -/
def quotedRun (double : Bool) : Nat → List Char → Reader (List Char)
  | 0, text => return text
  | fuel + 1, text => do
    let run ← takeWhile fun c => !(isGap c || c = '\'' || c = '"' || c = '\\')
    let text := text ++ run
    let c ← get
    if !double ∧ c.peek = '\'' ∧ c.peekAt 1 = '\'' then
      skip 2
      quotedRun double fuel (text ++ ['\''])
    else if (double ∧ c.peek = '\'') ∨ (!double ∧ (c.peek = '"' ∨ c.peek = '\\')) then
      skip 1
      quotedRun double fuel (text ++ [c.peek])
    else if double ∧ c.peek = '\\' then
      skip 1
      let more ← escaped
      quotedRun double fuel (text ++ more)
    else return text

/-- A gap inside a quoted scalar. -/
def quotedGap : Reader (List Char) := do
  let blanks ← takeWhile fun c => c = ' ' || c = '\t'
  if (← peek) = endMark then fail "the text ends inside a quoted scalar"
  match ← lineBreak? with
  | none => return blanks
  | some first => return folded first (← quotedBreaks (← get).fuel [])

/-- The rest of a quoted scalar, after the text read so far. -/
def quotedRest (double : Bool) : Nat → List Char → Reader String
  | 0, text => return String.ofList text
  | fuel + 1, text => do
    let text := text ++ (← quotedRun double (← get).fuel [])
    if (← peek) = (if double then '"' else '\'') then
      skip 1
      return String.ofList text
    quotedRest double fuel (text ++ (← quotedGap))

/-- A scalar in double or single quotes. -/
def quoted (double : Bool) : Reader String := do
  skip 1
  quotedRest double (← get).fuel []

/-! ### Blocks -/

/-- What the first line of a block says about the line breaks at its end. -/
inductive Chomping where
  /-- One break is kept. -/
  | clip
  /-- None is kept. -/
  | strip
  /-- All are kept. -/
  | keep
  deriving DecidableEq, Repr

/-- How the end of a block is marked, if it is. -/
def chomping? : Reader (Option Chomping) := do
  match ← peek with
  | '+' =>
    skip 1
    return some .keep
  | '-' =>
    skip 1
    return some .strip
  | _ => return none

/-- How far a block is indented, if that is given. -/
def indentation? : Reader (Option Nat) := do
  let c ← peek
  if !c.isDigit then return none
  if c = '0' then fail "an indentation of zero"
  skip 1
  return some (c.toNat - '0'.toNat)

/-- The marks behind the beginning of a block, in either order. -/
def blockMarks : Reader (Chomping × Option Nat) := do
  let marks ← match ← chomping? with
    | some c => pure (c, ← indentation?)
    | none =>
      match ← indentation? with
      | some n => pure ((← chomping?).getD .clip, some n)
      | none => pure (.clip, none)
  let c ← peek
  if c ≠ ' ' ∧ !isLineEnd c then fail "unexpected mark of a block"
  return marks

/-- The empty lines at the beginning of a block, and the greatest column that blanks reach. -/
def leadingLines : Nat → List Char → Nat → Reader (List Char × Nat)
  | 0, breaks, column => return (breaks, column)
  | fuel + 1, breaks, column => do
    skipWhile (· = ' ')
    let column := max column (← get).column
    match ← lineBreak? with
    | none => return (breaks, column)
    | some b => leadingLines fuel (breaks ++ [b]) column

/-- Goes on behind blanks, at most up to a column. -/
def skipIndent (indent : Nat) : Reader Unit := do
  let c ← get
  let blanks := (c.rest.takeWhile (· = ' ')).length
  skip (min blanks (indent - c.column))

/-- The empty lines inside a block. -/
def blockBreaks (indent : Nat) : Nat → List Char → Reader (List Char)
  | 0, breaks => return breaks
  | fuel + 1, breaks => do
    skipIndent indent
    match ← lineBreak? with
    | none => return breaks
    | some b => blockBreaks indent fuel (breaks ++ [b])

/-- Whether a line of a block begins with a blank, which keeps it from being folded. -/
def isBlankStart (c : Char) : Bool := c = ' ' || c = '\t'

/-- The lines of a block after the text read so far and empty lines: the text, the last break, and the
empty lines behind it. -/
def blockLines (isFolded : Bool) (indent : Nat) :
    Nat → List Char → List Char → Reader (List Char × List Char × List Char)
  | 0, text, breaks => return (text, [], breaks)
  | fuel + 1, text, breaks => do
    let starts := !isBlankStart (← peek)
    let line ← takeWhile (!isLineEnd ·)
    let text := text ++ breaks ++ line
    let last ← lineBreak?
    let breaks ← blockBreaks indent (← get).fuel []
    let c ← get
    if c.column = indent ∧ c.peek ≠ endMark then
      let joined := if isFolded ∧ last = some '\n' ∧ starts ∧ !isBlankStart c.peek then
          if breaks.isEmpty then [' '] else []
        else last.toList
      blockLines isFolded indent fuel (text ++ joined) breaks
    else return (text, last.toList, breaks)

/-- A block, with its line breaks folded or not, inside a structure of the given indentation. -/
def block (isFolded : Bool) (parent : Int) : Reader String := do
  skip 1
  let (chomping, given) ← blockMarks
  finishLine
  let least := (max (parent + 1) 1).toNat
  let (indent, breaks) ← match given with
    | none => do
      let (breaks, column) ← leadingLines (← get).fuel [] 0
      pure (max least column, breaks)
    | some n => do
      let indent := least + n - 1
      pure (indent, ← blockBreaks indent (← get).fuel [])
  let c ← get
  let (text, last, breaks) ← if c.column = indent ∧ c.peek ≠ endMark then
      blockLines isFolded indent c.fuel [] breaks
    else pure ([], [], breaks)
  return String.ofList <| match chomping with
    | .strip => text
    | .clip => text ++ last
    | .keep => text ++ last ++ breaks

end ImageSigning.Yaml.Reader
