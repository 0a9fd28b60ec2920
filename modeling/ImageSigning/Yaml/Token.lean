import ImageSigning.Text.Integer
import ImageSigning.Yaml.ScalarText

/-!
# Tokens

A text is a series of tokens: scalars, the marks before and between them, and the beginnings and ends
that indentation stands for. A key of a mapping is known as such only by the colon behind it, so its
mark is put before it afterwards; until then it is a candidate, which has to stand on one line and be
short.

* `Token.ofText`: the tokens of a text. Where the text cannot be read any further the last token is the
  problem.
-/

namespace ImageSigning.Yaml

/-- A directive. -/
inductive Directive where
  /-- The version of the language, by its first number. -/
  | version (major : Nat)
  /-- What tags that begin with a handle begin with in full. -/
  | tag (handle full : String)
  | other
  deriving DecidableEq, Repr

/-- A token. -/
inductive Token where
  | directive (d : Directive)
  | documentStart
  | documentEnd
  | textEnd
  | blockSequence
  | blockMapping
  | blockEnd
  | flowSequence
  | flowSequenceEnd
  | flowMapping
  | flowMappingEnd
  | flowEntry
  | blockEntry
  | key
  | value
  | alias (name : String)
  | anchor (name : String)
  /-- A tag, with a handle that has to be completed if there is one. -/
  | tag (handle : Option String) (suffix : String)
  | scalar (text : String) (isPlain : Bool)
  /-- The text cannot be read any further. -/
  | broken (p : Problem)
  deriving DecidableEq, Repr

/-! ### Names and tags -/

namespace Reader

/-- A name of at least one character. -/
def name (what : String) : Reader String := do
  let cs ← takeWhile isNameChar
  if cs.isEmpty then fail s!"expected the name of {what}"
  return String.ofList cs

/-- What has to follow here. -/
def expect (ok : Char → Bool) (what : String) : Reader Unit := do
  if !ok (← peek) then fail s!"unexpected character behind {what}"

/-- Whether a character is a gap but no tab. -/
def isPlainGap (c : Char) : Bool := c = ' ' || isLineEnd c

/-- The name behind the mark of an anchor or an alias. -/
def anchorName : Reader String := do
  skip 1
  let n ← name "an anchor"
  expect (fun c => isGap c || ['?', ':', ',', ']', '}', '%', '@', '\x60'].contains c) "an anchor"
  return n

/-- Whether a character may stand in a tag. -/
def isTagChar (c : Char) : Bool :=
  isNameChar c || [';', '/', '?', ':', '@', '&', '=', '+', '$', ',', '.', '!', '~', '*', '\'', '(', ')',
    '[', ']'].contains c

/-- The octets of escapes by percent signs. -/
def percentOctets : Nat → Bytes → Reader Bytes
  | 0, b => return b
  | fuel + 1, b => do
    if (← peek) ≠ '%' then return b
    let digits := ((← get).rest.drop 1).take 2
    if digits.length < 2 ∨ !digits.all isHexDigit then fail "expected two hexadecimal digits"
    skip 3
    percentOctets fuel (b ++ [UInt8.ofNat (hexNumber digits)])

/-- The characters of a tag, escapes resolved. -/
def tagChars : Nat → List Char → Reader (List Char)
  | 0, cs => return cs
  | fuel + 1, cs => do
    let run ← takeWhile isTagChar
    if (← peek) ≠ '%' then return cs ++ run
    match Utf8.decode? (← percentOctets (← get).fuel []) with
    | some s => tagChars fuel (cs ++ run ++ s.toList)
    | none => fail "escaped octets are not text"

/-- The characters of a tag; there has to be one. -/
def tagText : Reader String := do
  let c ← get
  let cs ← tagChars c.fuel []
  if (← get).index = c.index then fail "expected a tag"
  return String.ofList cs

/-- A handle: a name between exclamation marks, or just one or two of those. -/
def tagHandle : Reader String := do
  let c ← get
  if c.peek ≠ '!' then fail "expected a tag handle"
  skip 1
  if (← peek) = ' ' then return "!"
  let n ← takeWhile isNameChar
  if (← peek) ≠ '!' then fail "expected the end of a tag handle"
  skip 1
  return String.ofList ('!' :: n ++ ['!'])

/-- Whether the tag that begins here has a handle of more than one character. -/
def hasLongHandle (c : Cursor) : Bool :=
  ((c.rest.drop 1).takeWhile (!isPlainGap ·)).contains '!'

/-- A tag. -/
def tag : Reader Token := do
  let c ← get
  let result ←
    if c.peekAt 1 = '<' then do
      skip 2
      let suffix ← tagText
      if (← peek) ≠ '>' then fail "expected the end of a tag"
      skip 1
      pure (Token.tag none suffix)
    else if isGap (c.peekAt 1) then do
      skip 1
      pure (Token.tag none "!")
    else if hasLongHandle c then do
      let handle ← tagHandle
      pure (Token.tag (some handle) (← tagText))
    else do
      skip 1
      pure (Token.tag (some "!") (← tagText))
  expect isPlainGap "a tag"
  return result

/-! ### Directives -/

/-- A number in decimal digits. -/
def number : Reader Nat := do
  let digits ← takeWhile Char.isDigit
  if digits.isEmpty then fail "expected a number"
  return Text.ofDigits 10 (digits.map fun c => c.toNat - '0'.toNat)

/-- A version: two numbers with a point between them. -/
def version : Reader Directive := do
  skipWhile (· = ' ')
  let major ← number
  if (← peek) ≠ '.' then fail "expected a point in a version"
  skip 1
  let _ ← number
  expect isPlainGap "a version"
  return .version major

/-- A handle and what it stands for. -/
def tagDirective : Reader Directive := do
  skipWhile (· = ' ')
  let handle ← tagHandle
  expect (· = ' ') "a tag handle"
  skipWhile (· = ' ')
  let full ← tagText
  expect isPlainGap "a tag"
  return .tag handle full

/-- A directive, up to the end of its line. -/
def directive : Reader Directive := do
  skip 1
  let n ← name "a directive"
  expect isPlainGap "the name of a directive"
  let d ← if n = "YAML" then version else if n = "TAG" then tagDirective else do
    skipWhile (!isLineEnd ·)
    pure .other
  finishLine
  return d

end Reader

/-! ### The state of reading -/

/-- A place where a key may have begun. -/
structure Candidate where
  /-- The number of the token that would be the key's first. -/
  token : Nat
  /-- Whether there has to be a key here. -/
  isRequired : Bool
  /-- Where the candidate begins. -/
  place : Cursor
  deriving DecidableEq, Repr

/-- How far a text was read. -/
structure Progress where
  /-- The place. -/
  cursor : Cursor
  /-- The tokens so far. -/
  tokens : List Token
  /-- How many brackets are open. -/
  depth : Nat
  /-- The column of the innermost block; less than zero outside all blocks. -/
  indent : Int
  /-- The columns of the blocks around it. -/
  outer : List Int
  /-- Whether a key may begin here. -/
  allowsKey : Bool
  /-- The candidates, by how many brackets are open around them. -/
  candidates : List (Nat × Candidate)
  deriving Repr

/-- Reading tokens. -/
abbrev Lexing := StateT Progress (Except Problem)

namespace Lexing

/-- The most characters of a key. -/
def maxKey : Nat := 1024

/-- Ends with a problem of the document. -/
def fail {α : Type} (diagnosis : String) : Lexing α := throw (.document diagnosis)

/-- Reads from the place on. -/
def read {α : Type} (r : Reader α) : Lexing α := do
  let s ← get
  let (a, cursor) ← (r.run s.cursor : Except Problem _)
  set { s with cursor }
  return a

/-- Adds a token. -/
def emit (t : Token) : Lexing Unit := modify fun s => { s with tokens := s.tokens ++ [t] }

/-- Adds a token of `n` characters. -/
def emitMark (n : Nat) (t : Token) : Lexing Unit := do
  read (Reader.skip n)
  emit t

/-- Says whether a key may begin at the next token. -/
def allowKey (b : Bool) : Lexing Unit := modify fun s => { s with allowsKey := b }

/-- Whether a candidate cannot be a key any more. -/
def isStale (c : Cursor) (k : Candidate) : Bool :=
  k.place.line ≠ c.line || maxKey < c.index - k.place.index

/-- Gives up the candidates that cannot be keys any more. -/
def dropStale : Lexing Unit := do
  let s ← get
  let (stale, fresh) := s.candidates.partition fun (_, k) => isStale s.cursor k
  if stale.any fun (_, k) => k.isRequired then fail "expected a colon behind a key"
  set { s with candidates := fresh }

/-- Gives up the candidate at the present depth. -/
def dropCandidate : Lexing Unit := do
  let s ← get
  if (s.candidates.lookup s.depth).any (·.isRequired) then fail "expected a colon behind a key"
  set { s with candidates := s.candidates.filter fun (d, _) => d ≠ s.depth }

/-- Notes that a key may begin here. -/
def noteCandidate : Lexing Unit := do
  if (← get).allowsKey then
    dropCandidate
    modify fun s =>
      let isRequired := s.depth = 0 && s.indent = s.cursor.column
      { s with candidates := (s.depth, ⟨s.tokens.length, isRequired, s.cursor⟩) :: s.candidates }

/-- Ends the blocks that are indented further than a column. -/
def closeBlocks (column : Int) : List Int → Lexing Unit
  | [] => pure ()
  | parent :: outer => do
    let s ← get
    if s.depth = 0 ∧ column < s.indent then
      set { s with indent := parent, outer, tokens := s.tokens ++ [Token.blockEnd] }
      closeBlocks column outer

/-- Ends the blocks that are indented further than a column. -/
def unwind (column : Int) : Lexing Unit := do closeBlocks column (← get).outer

/-- Begins a block at a column if it is indented further than the one around it; its first token is put
before the tokens from number `before` on. -/
def openBlock (column : Nat) (before : Nat) (t : Token) : Lexing Unit := modify fun s =>
  if s.indent < (column : Int) then
    { s with
      indent := (column : Int)
      outer := s.indent :: s.outer
      tokens := s.tokens.take before ++ t :: s.tokens.drop before }
  else s

/-! ### Single tokens -/

/-- Goes on to the next token. A key may begin on a new line. -/
def skipGap : Nat → Lexing Unit
  | 0 => pure ()
  | fuel + 1 => do
    read Reader.skipComment
    match ← read Reader.lineBreak? with
    | none => pure ()
    | some _ =>
      if (← get).depth = 0 then allowKey true
      skipGap fuel

/-- The end of the text. -/
def endText : Lexing Unit := do
  unwind (-1)
  dropCandidate
  modify fun s => { s with allowsKey := false, candidates := [] }
  emit .textEnd

/-- Between documents nothing is open. -/
def leaveDocument : Lexing Unit := do
  unwind (-1)
  dropCandidate
  allowKey false

/-- An opening bracket. -/
def openBracket (t : Token) : Lexing Unit := do
  noteCandidate
  modify fun s => { s with depth := s.depth + 1, allowsKey := true }
  emitMark 1 t

/-- A closing bracket. -/
def closeBracket (t : Token) : Lexing Unit := do
  dropCandidate
  modify fun s => { s with depth := s.depth - 1, allowsKey := false }
  emitMark 1 t

/-- A comma inside brackets. -/
def comma : Lexing Unit := do
  allowKey true
  dropCandidate
  emitMark 1 .flowEntry

/-- Begins a block at the present place unless brackets are open. -/
def openBlockHere (t : Token) (what : String) : Lexing Unit := do
  let s ← get
  if s.depth = 0 then
    if !s.allowsKey then fail s!"{what} is not allowed here"
    openBlock s.cursor.column s.tokens.length t

/-- The mark of an entry of a block. -/
def blockEntry : Lexing Unit := do
  openBlockHere .blockSequence "an entry"
  allowKey true
  dropCandidate
  emitMark 1 .blockEntry

/-- The mark of a key. -/
def explicitKey : Lexing Unit := do
  openBlockHere .blockMapping "a key"
  allowKey ((← get).depth = 0)
  dropCandidate
  emitMark 1 .key

/-- The mark of a value. A candidate becomes the key of the value. -/
def valueMark : Lexing Unit := do
  let s ← get
  match s.candidates.lookup s.depth with
  | some k =>
    set { s with
      candidates := s.candidates.filter fun (d, _) => d ≠ s.depth
      tokens := s.tokens.take k.token ++ Token.key :: s.tokens.drop k.token }
    if s.depth = 0 then openBlock k.place.column k.token .blockMapping
    allowKey false
  | none =>
    openBlockHere .blockMapping "a value"
    allowKey (s.depth = 0)
    dropCandidate
  emitMark 1 .value

/-- A token that a key may begin with. -/
def startable (r : Reader Token) : Lexing Unit := do
  noteCandidate
  allowKey false
  emit (← read r)

/-- A block scalar. -/
def blockScalar (isFolded : Bool) : Lexing Unit := do
  allowKey true
  dropCandidate
  let text ← read (Reader.block isFolded (← get).indent)
  emit (.scalar text false)

/-- A plain scalar. -/
def plainScalar : Lexing Unit := do
  noteCandidate
  let s ← get
  let (text, crossed) ← read (Reader.plain (s.depth ≠ 0) (s.indent + 1))
  allowKey crossed
  emit (.scalar text true)

/-- Whether a plain scalar may begin at a place. -/
def beginsPlain (c : Cursor) (inBrackets : Bool) : Bool :=
  let x := c.peek
  let special := ['-', '?', ':', ',', '[', ']', '{', '}', '#', '&', '*', '!', '|', '>', '\'', '"', '%',
    '@', '\x60']
  (!isGap x && !special.contains x)
    || (!isGap (c.peekAt 1) && (x = '-' || (!inBrackets && (x = '?' || x = ':'))))

/-- Reads the next token; `false` behind the end of the text. -/
def step : Lexing Bool := do
  skipGap (← get).cursor.fuel
  dropStale
  unwind (← get).cursor.column
  let s ← get
  let c := s.cursor
  let inBrackets := s.depth ≠ 0
  let gapFollows := isGap (c.peekAt 1)
  let x := c.peek
  if x = endMark then
    endText
    return false
  if x = '%' ∧ c.column = 0 then
    leaveDocument
    emit (.directive (← read Reader.directive))
  else if c.column = 0 ∧ c.atMark '-' then
    leaveDocument
    emitMark 3 .documentStart
  else if c.column = 0 ∧ c.atMark '.' then
    leaveDocument
    emitMark 3 .documentEnd
  else if x = '[' then openBracket .flowSequence
  else if x = '{' then openBracket .flowMapping
  else if x = ']' then closeBracket .flowSequenceEnd
  else if x = '}' then closeBracket .flowMappingEnd
  else if x = ',' then comma
  else if x = '-' ∧ gapFollows then blockEntry
  else if x = '?' ∧ (inBrackets ∨ gapFollows) then explicitKey
  else if x = ':' ∧ (inBrackets ∨ gapFollows) then valueMark
  else if x = '*' then startable (.alias <$> Reader.anchorName)
  else if x = '&' then startable (.anchor <$> Reader.anchorName)
  else if x = '!' then startable Reader.tag
  else if x = '|' ∧ !inBrackets then blockScalar false
  else if x = '>' ∧ !inBrackets then blockScalar true
  else if x = '\'' then startable ((.scalar · false) <$> Reader.quoted false)
  else if x = '"' then startable ((.scalar · false) <$> Reader.quoted true)
  else if beginsPlain c inBrackets then plainScalar
  else fail "a character that no token begins with"
  return true

/-- Reads tokens up to the end of the text or the first problem. -/
def steps : Nat → Progress → List Token
  | 0, s => s.tokens
  | fuel + 1, s =>
    match step.run s with
    | .ok (true, s) => steps fuel s
    | .ok (false, s) => s.tokens
    | .error p => s.tokens ++ [.broken p]

end Lexing

namespace Token

/-- The tokens of a text. A byte order mark at its beginning does not count. -/
def ofText (text : List Char) : List Token :=
  let start := Cursor.start text
  let start := if start.peek = byteOrderMark then start.next else start
  Lexing.steps (start.fuel + 1) ⟨start, [], 0, -1, [], true, []⟩

end Token

end ImageSigning.Yaml
