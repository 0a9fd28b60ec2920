/-!
# A place in a text

Reading goes through a text character by character and keeps count of characters, lines and columns:
a document is structured by columns, and a key has to stand on one line. The end of the text looks like
the character that no text holds.

Most problems of a text are problems of the document and are reported as such. A few scalars pass for what
their tag says and then turn out not to be; those problems are told apart, because nobody looks for them.
-/

namespace ImageSigning.Yaml

/-- A scalar that is not what its tag says. -/
inductive Oddity where
  /-- An escape for a character that does not exist. -/
  | noSuchCharacter
  /-- A mapping that counts as itself. -/
  | endless
  | notNumber
  | notFlag
  /-- A number without any digits. -/
  | noDigits
  | notMoment
  /-- A date or time that does not exist. -/
  | noSuchMoment
  deriving DecidableEq, Repr

/-- Why a text has no value. -/
inductive Problem where
  | document (diagnosis : String)
  | scalar (oddity : Oddity)
  deriving DecidableEq, Repr

/-- A place in a text. -/
structure Cursor where
  /-- What is left of the text. -/
  rest : List Char
  /-- Characters before the place. -/
  index : Nat
  /-- Lines before the place. -/
  line : Nat
  /-- Characters before the place on its line. -/
  column : Nat
  deriving DecidableEq, Repr

/-- What the end of the text looks like. -/
def endMark : Char := '\x00'

/-- The mark that a text may begin with and that takes no column. -/
def byteOrderMark : Char := '\ufeff'

/-- Whether a character ends a line. -/
def isBreak (c : Char) : Bool := c = '\n' || c = '\x85' || c = '\u2028' || c = '\u2029'

/-- Whether a character ends a line or the text. -/
def isLineEnd (c : Char) : Bool := c = endMark || isBreak c

/-- Whether a character separates tokens. -/
def isGap (c : Char) : Bool := c = ' ' || c = '\t' || isLineEnd c

/-- Whether a character may stand in a name. -/
def isNameChar (c : Char) : Bool := c.isAlphanum || c = '-' || c = '_'

/-- Whether a character is a hexadecimal digit. -/
def isHexDigit (c : Char) : Bool :=
  c.isDigit || ('a' ≤ c && c ≤ 'f') || ('A' ≤ c && c ≤ 'F')

namespace Cursor

/-- The beginning of a text. -/
def start (text : List Char) : Cursor := ⟨text, 0, 0, 0⟩

/-- The character at the place. -/
def peek (c : Cursor) : Char := c.rest.headD endMark

/-- The character `n` characters further on. -/
def peekAt (c : Cursor) (n : Nat) : Char := (c.rest.drop n).headD endMark

/-- The next place. -/
def next (c : Cursor) : Cursor :=
  match c.rest with
  | [] => c
  | x :: r =>
    if isBreak x then ⟨r, c.index + 1, c.line + 1, 0⟩
    else ⟨r, c.index + 1, c.line, if x = byteOrderMark then c.column else c.column + 1⟩

/-- The place `n` characters further on. -/
def advance (c : Cursor) : Nat → Cursor
  | 0 => c
  | n + 1 => c.next.advance n

/-- Whether a mark of three characters that begins or ends a document stands here. -/
def atMark (c : Cursor) (mark : Char) : Bool :=
  c.peek = mark && c.peekAt 1 = mark && c.peekAt 2 = mark && isGap (c.peekAt 3)

/-- Whether either mark stands here. -/
def atDocumentMark (c : Cursor) : Bool := c.atMark '-' || c.atMark '.'

/-- Steps that are enough to read everything from here on. -/
def fuel (c : Cursor) : Nat := c.rest.length + 1

end Cursor

/-- Reading from a place on. -/
abbrev Reader := StateT Cursor (Except Problem)

namespace Reader

/-- Ends with a problem of the document. -/
def fail {α : Type} (diagnosis : String) : Reader α := throw (.document diagnosis)

/-- The character at the place. -/
def peek : Reader Char := return (← get).peek

/-- Goes on by `n` characters. -/
def skip (n : Nat) : Reader Unit := modify (·.advance n)

/-- The characters from here on that satisfy a condition; the place is behind them. -/
def takeWhile (p : Char → Bool) : Reader (List Char) := do
  let c ← get
  let taken := c.rest.takeWhile p
  set (c.advance taken.length)
  return taken

/-- Goes on behind the characters that satisfy a condition. -/
def skipWhile (p : Char → Bool) : Reader Unit := do
  let _ ← takeWhile p

/-- The line break at the place, if there is one, in the form in which it counts. -/
def lineBreak? : Reader (Option Char) := do
  let c ← peek
  if isBreak c then
    skip 1
    return some (if c = '\x85' then '\n' else c)
  else return none

/-- Goes on behind blanks and a comment. -/
def skipComment : Reader Unit := do
  skipWhile (· = ' ')
  if (← peek) = '#' then skipWhile (!isLineEnd ·)

/-- The rest of a line may hold blanks and a comment only. -/
def finishLine : Reader Unit := do
  skipComment
  if !isLineEnd (← peek) then fail "expected a comment or a line break"
  let _ ← lineBreak?

end Reader

end ImageSigning.Yaml
