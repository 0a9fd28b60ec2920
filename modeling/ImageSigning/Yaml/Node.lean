import ImageSigning.Yaml.Kind
import ImageSigning.Yaml.Token

/-!
# Nodes

A document is made of scalars, sequences and mappings, each with its kind. An anchor names a node, and an
alias stands for the node that was named, also inside that node: a node may be a part of itself. So nodes
have numbers, and a sequence or a mapping holds the numbers of its parts.

* `Graph.ofText`: the nodes of a text that holds at most one document.
-/

namespace ImageSigning.Yaml

/-- A node; its parts are given by their numbers. -/
inductive Node where
  | scalar (kind : Kind) (text : String)
  | sequence (kind : Kind) (items : List Nat)
  | mapping (kind : Kind) (entries : List (Nat × Nat))
  deriving DecidableEq, Repr

/-- The nodes of a document. -/
structure Graph where
  /-- All nodes by number. -/
  nodes : List Node
  /-- The number of the node that the others are parts of. -/
  root : Nat
  deriving DecidableEq, Repr

namespace Node

/-- The kind of a node. -/
def kind : Node → Kind
  | scalar k _ | sequence k _ | mapping k _ => k

/-- The node with another kind. -/
def withKind (k : Kind) : Node → Node
  | scalar _ s => scalar k s
  | sequence _ items => sequence k items
  | mapping _ entries => mapping k entries

/-- The node that stands where nothing is written. -/
def absent : Node := scalar .null ""

/-! ### Reading tokens -/

/-- How far tokens were read. -/
structure Reading where
  /-- The tokens that are left. -/
  rest : List Token
  /-- The nodes so far; one whose parts are still being read stands there without them. -/
  nodes : List Node
  /-- The numbers of the nodes that were named. -/
  anchors : List (String × Nat)
  /-- What the handles of tags stand for. -/
  handles : List (String × String)

/-- Reading nodes from tokens. -/
abbrev Parsing := StateT Reading (Except Problem)

/-- The next token; behind the last one there is the end of the text. -/
def peek : Parsing Token := return (← get).rest.headD .textEnd

/-- Goes on behind the next token. -/
def skip : Parsing Unit := modify fun s => { s with rest := s.rest.drop 1 }

/-- Ends with the problem of the text, if reading it stopped here, or else with one of the document. -/
def fail {α : Type} (diagnosis : String) : Parsing α := do
  match ← peek with
  | .broken p => throw p
  | _ => throw (.document diagnosis)

/-- Whether one of some tokens comes next. -/
def nextIs (ts : List Token) : Parsing Bool := return ts.contains (← peek)

/-- Goes on behind a token if it comes next, and says whether it did. -/
def accept (t : Token) : Parsing Bool := do
  if (← peek) = t then
    skip
    return true
  else return false

/-- Goes on behind a token that has to come next. -/
def expect (t : Token) (what : String) : Parsing Unit := do
  if !(← accept t) then fail s!"expected {what}"

/-! ### Properties of nodes -/

/-- A tag in full. -/
def fullTag (handle : Option String) (suffix : String) : Parsing String := do
  match handle with
  | none => return suffix
  | some h =>
    match (← get).handles.lookup h with
    | some full => return full ++ suffix
    | none => throw (.document "undefined tag handle")

/-- The anchor before a node, if there is one. -/
def anchor? : Parsing (Option String) := do
  match ← peek with
  | .anchor name =>
    skip
    return some name
  | _ => return none

/-- The tag before a node in full, if there is one. -/
def tag? : Parsing (Option String) := do
  match ← peek with
  | .tag handle suffix =>
    skip
    return some (← fullTag handle suffix)
  | _ => return none

/-- The anchor and the tag before a node, in either order. -/
def properties : Parsing (Option String × Option String) := do
  match ← anchor? with
  | some name => return (some name, ← tag?)
  | none =>
    let tag ← tag?
    return (← anchor?, tag)

/-- The tag that says nothing. -/
def openTag : String := "!"

/-- The kind of a node with a tag; without one, or with the tag that says nothing, another. -/
def kindOf (tag : Option String) (otherwise : Kind) : Kind :=
  match tag with
  | none => otherwise
  | some t => if t = openTag then otherwise else Kind.ofTag t

/-- The kind of a scalar. -/
def scalarKind (tag : Option String) (text : String) (isPlain : Bool) : Kind :=
  let otherwise := if isPlain ∨ tag = some openTag then Kind.ofPlain text else .text
  kindOf tag otherwise

/-- A name is used once. -/
def claim (name : Option String) : Parsing Unit := do
  match name with
  | none => pure ()
  | some n => if ((← get).anchors.lookup n).isSome then throw (.document "duplicate anchor")

/-- Gives a node the next number, and notes it under its name. -/
def add (name : Option String) (node : Node) : Parsing Nat := do
  let s ← get
  let number := s.nodes.length
  let anchors := match name with
    | none => s.anchors
    | some n => (n, number) :: s.anchors
  set { s with nodes := s.nodes ++ [node], anchors }
  return number

/-- Gives a node a number before its parts are read, so that they may be aliases of it. -/
def around (name : Option String) (parts : Parsing Node) : Parsing Nat := do
  let number ← add name absent
  let node ← parts
  modify fun s => { s with nodes := s.nodes.set number node }
  return number

/-- The node that an alias stands for. -/
def aliased (name : String) : Parsing Nat := do
  match (← get).anchors.lookup name with
  | some number => return number
  | none => throw (.document "undefined alias")

/-! ### Nodes -/

/-- A node without content: its anchor or its tag has to be there. -/
def readEmpty (name tag : Option String) : Parsing Nat := do
  if name.isNone && tag.isNone then fail "expected the content of a node"
  add name (scalar (kindOf tag (Kind.ofPlain "")) "")

mutual

/-- A node. Blocks may begin here or not, and an entry may begin a sequence that is not indented. -/
def read : Nat → Bool → Bool → Parsing Nat
  | 0, _, _ => fail "nested too deeply"
  | fuel + 1, inBlock, allowsEntry => do
    match ← peek with
    | .alias name =>
      skip
      aliased name
    | _ =>
      let (name, tag) ← properties
      claim name
      match ← peek with
      | .blockEntry =>
        if !allowsEntry then readEmpty name tag
        else around name (sequence (kindOf tag .sequence) <$> readIndentless fuel [])
      | .scalar text isPlain =>
        skip
        add name (scalar (scalarKind tag text isPlain) text)
      | .flowSequence =>
        skip
        around name (sequence (kindOf tag .sequence) <$> readFlowItems fuel [])
      | .flowMapping =>
        skip
        around name (mapping (kindOf tag .mapping) <$> readFlowEntries fuel [])
      | .blockSequence =>
        if !inBlock then readEmpty name tag
        else
          skip
          around name (sequence (kindOf tag .sequence) <$> readItems fuel [])
      | .blockMapping =>
        if !inBlock then readEmpty name tag
        else
          skip
          around name (mapping (kindOf tag .mapping) <$> readEntries fuel [])
      | _ => readEmpty name tag

/-- A node, or the absent one if one of some tokens comes next. -/
def readUnless : Nat → List Token → Bool → Bool → Parsing Nat
  | 0, _, _, _ => fail "nested too deeply"
  | fuel + 1, ends, inBlock, allowsEntry => do
    if ← nextIs ends then return (← add none absent)
    read fuel inBlock allowsEntry

/-- The entries of an indented sequence. -/
def readItems : Nat → List Nat → Parsing (List Nat)
  | 0, _ => fail "nested too deeply"
  | fuel + 1, items => do
    if ← accept .blockEntry then
      let item ← readUnless fuel [.blockEntry, .blockEnd] true false
      readItems fuel (items ++ [item])
    else
      expect .blockEnd "the end of a sequence"
      return items

/-- The entries of a sequence that is not indented. -/
def readIndentless : Nat → List Nat → Parsing (List Nat)
  | 0, _ => fail "nested too deeply"
  | fuel + 1, items => do
    if ← accept .blockEntry then
      let item ← readUnless fuel [.blockEntry, .key, .value, .blockEnd] true false
      readIndentless fuel (items ++ [item])
    else return items

/-- The entries of an indented mapping. -/
def readEntries : Nat → List (Nat × Nat) → Parsing (List (Nat × Nat))
  | 0, _ => fail "nested too deeply"
  | fuel + 1, entries => do
    if ← accept .key then
      let ends := [Token.key, .value, .blockEnd]
      let key ← readUnless fuel ends true true
      let value ← if ← accept .value then readUnless fuel ends true true else add none absent
      readEntries fuel (entries ++ [(key, value)])
    else
      expect .blockEnd "the end of a mapping"
      return entries

/-- The entries of a sequence in brackets. An entry may be a mapping of one key. -/
def readFlowItems : Nat → List Nat → Parsing (List Nat)
  | 0, _ => fail "nested too deeply"
  | fuel + 1, items => do
    if ← accept .flowSequenceEnd then return items
    if !items.isEmpty then expect .flowEntry "a comma or a bracket"
    if ← accept .key then
      let key ← readUnless fuel [.value, .flowEntry, .flowSequenceEnd] false false
      let value ← if ← accept .value then
          readUnless fuel [.flowEntry, .flowSequenceEnd] false false
        else add none absent
      let item ← add none (mapping .mapping [(key, value)])
      readFlowItems fuel (items ++ [item])
    else if ← accept .flowSequenceEnd then return items
    else
      let item ← read fuel false false
      readFlowItems fuel (items ++ [item])

/-- The entries of a mapping in brackets. -/
def readFlowEntries : Nat → List (Nat × Nat) → Parsing (List (Nat × Nat))
  | 0, _ => fail "nested too deeply"
  | fuel + 1, entries => do
    if ← accept .flowMappingEnd then return entries
    if !entries.isEmpty then expect .flowEntry "a comma or a bracket"
    if ← accept .key then
      let key ← readUnless fuel [.value, .flowEntry, .flowMappingEnd] false false
      let value ← if ← accept .value then
          readUnless fuel [.flowEntry, .flowMappingEnd] false false
        else add none absent
      readFlowEntries fuel (entries ++ [(key, value)])
    else if ← accept .flowMappingEnd then return entries
    else
      let key ← read fuel false false
      let value ← add none absent
      readFlowEntries fuel (entries ++ [(key, value)])

end

/-! ### Documents -/

/-- The handles that need no directive. -/
def usualHandles : List (String × String) := [("!", "!"), ("!!", Kind.tagBeginning)]

/-- The directives before a document: one version at most, and every handle once. -/
def readDirectives : Nat → Bool → List (String × String) → Parsing (List (String × String))
  | 0, _, handles => return handles
  | fuel + 1, hasVersion, handles => do
    match ← peek with
    | .directive (.version major) =>
      if hasVersion ∨ major ≠ 1 then throw (.document "unexpected version")
      skip
      readDirectives fuel true handles
    | .directive (.tag handle full) =>
      if (handles.lookup handle).isSome then throw (.document "duplicate tag handle")
      skip
      readDirectives fuel hasVersion ((handle, full) :: handles)
    | .directive .other =>
      skip
      readDirectives fuel hasVersion handles
    | _ => return handles

/-- Goes on behind the ends of documents. -/
def skipEnds : Nat → Parsing Unit
  | 0 => pure ()
  | fuel + 1 => do if ← accept .documentEnd then skipEnds fuel

/-- Whether a document ends here. -/
def atDocumentEnd : Parsing Bool := do
  match ← peek with
  | .directive _ | .documentStart | .documentEnd | .textEnd => return true
  | _ => return false

/-- A document behind its beginning mark. -/
def readMarked (fuel : Nat) : Parsing (Option Nat) := do
  skipEnds fuel
  if ← nextIs [.textEnd] then return none
  let handles ← readDirectives fuel false []
  modify fun s => { s with handles := handles ++ usualHandles }
  expect .documentStart "the beginning of a document"
  if ← atDocumentEnd then return some (← add none absent)
  return some (← read fuel true false)

/-- The only document, if there is one. -/
def readDocument (fuel : Nat) : Parsing (Option Nat) := do
  let node ← match ← peek with
    | .directive _ | .documentStart | .textEnd => readMarked fuel
    | _ => some <$> read fuel true false
  skipEnds fuel
  if !(← nextIs [.textEnd]) then fail "expected a single document"
  return node

/-- Steps that are enough to read some tokens. -/
def fuelFor (tokens : List Token) : Nat := 4 * tokens.length + 8

end Node

/-- The nodes of a text, if it holds a document. -/
def Graph.ofText (text : List Char) : Except Problem (Option Graph) :=
  let tokens := Token.ofText text
  match (Node.readDocument (Node.fuelFor tokens)).run ⟨tokens, [], [], Node.usualHandles⟩ with
  | .ok (root, s) => .ok (root.map fun r => ⟨s.nodes, r⟩)
  | .error p => .error p

end ImageSigning.Yaml
