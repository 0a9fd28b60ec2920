import ImageSigning.Text.Base64
import ImageSigning.Text.Utf8
import ImageSigning.Value
import ImageSigning.Yaml.Node
import ImageSigning.Yaml.Number

/-!
# Documents

What the nodes of a document stand for, and the value that comes of it. Parts are built level by level:
first what stands directly in a series or a table, then what stands in these. Mappings may take over the
entries of others; an entry of their own goes before. A key has to be a single value, and of entries with
the same key the last counts.

A node may be a part of itself. Its value is then seen from the node: where a series or a table comes
again inside itself, there is only that it does. What is taken out of a table is seen from itself on.

* `Content`: what a node stands for, its parts by number.
* `Document.value`: a node as it is by itself.
* `read`: the value of a text; a text without a document has the absent value.
-/

namespace ImageSigning.Yaml

/-- What a node stands for. -/
inductive Content where
  | single (v : Value)
  | series (items : List Nat)
  /-- A series of two values each. -/
  | pairs (items : List (Nat × Nat))
  | members (items : List Value)
  | table (entries : List (Value × Nat))
  deriving Repr

/-- A document that is being built. -/
structure Site where
  /-- The nodes by number; those that take over others change. -/
  nodes : List Node
  /-- What the nodes stand for that were built, by number. -/
  contents : List (Option Content)
  /-- The nodes whose parts were not built yet. -/
  waiting : List Nat

/-- Building what nodes stand for. -/
abbrev Building := StateT Site (Except Problem)

namespace Building

/-- A problem of the document. -/
def refuse {α : Type} (diagnosis : String) : Building α := throw (.document diagnosis)

/-- A result, or the oddity of a scalar. -/
def odd {α : Type} (r : Except Oddity α) : Building α := liftM (r.mapError Problem.scalar)

/-- The node with a number. -/
def node (n : Nat) : Building Node := return ((← get).nodes[n]?).getD .absent

/-- Puts another node in the place of the one with a number. -/
def exchange (n : Nat) (x : Node) : Building Unit := modify fun s => { s with nodes := s.nodes.set n x }

/-- What a node stands for, if it was built. -/
def content? (n : Nat) : Building (Option Content) := return ((← get).contents[n]?).join

/-- Notes what a node stands for. -/
def keep (n : Nat) (c : Content) : Building Unit :=
  modify fun s => { s with contents := s.contents.set n (some c) }

/-- Notes what a node stands for; its parts follow. -/
def await (n : Nat) (c : Content) : Building Unit := do
  keep n c
  modify fun s => { s with waiting := s.waiting ++ [n] }

/-! ### Taking over entries -/

/-- The entries of the mapping with a number. -/
def entriesOf (n : Nat) : Building (List (Nat × Nat)) := do
  match ← node n with
  | .mapping _ entries => return entries
  | _ => return []

/-- Gives a mapping other entries. -/
def putEntries (n : Nat) (entries : List (Nat × Nat)) : Building Unit := do
  exchange n (.mapping (← node n).kind entries)

/-- Takes the first entry out of a mapping that stands for the entries of others. -/
def nextMerge? (n : Nat) : Building (Option Nat) := do
  let s ← get
  let entries ← entriesOf n
  let takesOver := fun ((k, _) : Nat × Nat) => ((s.nodes[k]?).getD .absent).kind = .merge
  match entries.find? takesOver with
  | none => return none
  | some (_, v) =>
    putEntries n (entries.eraseP takesOver)
    return some v

/-- The key for what a mapping counts as is text among the entries of a mapping. -/
def nameContent (n : Nat) : Building Unit := do
  for (k, _) in ← entriesOf n do
    let key ← node k
    if key.kind = .content then exchange k (key.withKind .text)

mutual

/-- Puts the entries of others into a mapping, in front of its own. A mapping that takes over itself has
nothing more to take over by then. -/
def takeOver : Nat → Nat → Building Unit
  | 0, _ => refuse "nested too deeply"
  | fuel + 1, n => do
    let taken ← takenOver fuel n
    nameContent n
    putEntries n (taken ++ (← entriesOf n))

/-- What a mapping takes over. -/
def takenOver : Nat → Nat → Building (List (Nat × Nat))
  | 0, _ => refuse "nested too deeply"
  | fuel + 1, n => do
    match ← nextMerge? n with
    | none => return []
    | some v =>
      let first ← offered fuel v
      return first ++ (← takenOver fuel n)

/-- The entries that a node has for others: those of a mapping, or of the mappings in a sequence, the last
one first. -/
def offered : Nat → Nat → Building (List (Nat × Nat))
  | 0, _ => refuse "nested too deeply"
  | fuel + 1, n => do
    match ← node n with
    | .mapping _ _ =>
      takeOver fuel n
      entriesOf n
    | .sequence _ items =>
      let all ← items.mapM fun m => do
        match ← node m with
        | .mapping _ _ =>
          takeOver fuel m
          entriesOf m
        | _ => refuse "expected a mapping to take over"
      return all.reverse.flatten
    | _ => refuse "expected mappings to take over"

end

/-! ### Contents -/

/-- The text of a scalar, or of what a mapping counts as; a mapping may count as itself without end. -/
def text : Nat → Nat → Building String
  | 0, _ => throw (.scalar .endless)
  | fuel + 1, n => do
    match ← node n with
    | .scalar _ s => return s
    | .sequence _ _ => refuse "expected a scalar"
    | .mapping _ entries =>
      let nodes := (← get).nodes
      match entries.find? fun (k, _) => ((nodes[k]?).getD .absent).kind = .content with
      | some (_, v) => text fuel v
      | none => refuse "expected a scalar"

/-- The value of a scalar of a kind. -/
def scalarValue (k : Kind) (s : String) : Building Value := do
  match k with
  | .null => return .null
  | .flag => return .flag (← odd (Scalar.flag s))
  | .integer => return .integer (← odd (Scalar.integer s))
  | .real => return .real (← odd (Scalar.real s))
  | .text => return .text s
  | .moment =>
    match ← odd (Scalar.moment s) with
    | .inl d => return .date d
    | .inr m => return .moment m
  | .octets =>
    if !s.toList.all (·.toNat < 128) then refuse "octets are written in ASCII"
    match Base64.salvage? (Utf8.encode s) with
    | some b => return .octets b
    | none => refuse "octets are incomplete"
  | _ => refuse "unknown tag"

/-- Builds a node: a single value at once, and of the others only what kind of value they are. -/
def build (n : Nat) : Building Unit := do
  if (← content? n).isSome then return
  match (← node n).kind with
  | .sequence | .ordered | .pairs => await n (.series [])
  | .mapping => await n (.table [])
  | .members => await n (.members [])
  | .merge | .content | .unknown => refuse "unknown tag"
  | k => keep n (.single (← scalarValue k (← text ((← get).nodes.length + 1) n)))

/-- The key that a node is. -/
def key (n : Nat) : Building Value := do
  build n
  match ← content? n with
  | some (.single v) => return v
  | _ => refuse "a value that cannot be a key"

/-- The entries of a mapping, those taken over first. -/
def entries (fuel n : Nat) : Building (List (Value × Nat)) := do
  takeOver fuel n
  let add := fun (t : List (Value × Nat)) (k, v) => do
    let key ← key k
    build v
    return Table.put key v t
  List.foldlM add [] (← entriesOf n)

/-- The two parts of a mapping of one entry. -/
def pair (n : Nat) : Building (Nat × Nat) := do
  match ← node n with
  | .mapping _ [(k, v)] =>
    build k
    build v
    return (k, v)
  | _ => refuse "expected a mapping of one entry"

/-- Builds the parts of a node. -/
def fill (fuel n : Nat) : Building Unit := do
  let node ← node n
  match node.kind, node with
  | .sequence, .sequence _ items =>
    items.forM build
    keep n (.series items)
  | .mapping, .mapping _ _ => keep n (.table (← entries fuel n))
  | .members, .mapping _ _ => keep n (.members ((← entries fuel n).map Prod.fst))
  | .ordered, .sequence _ items | .pairs, .sequence _ items => keep n (.pairs (← items.mapM pair))
  | _, _ => refuse "unexpected node"

/-- Builds the parts of all nodes that wait for them. Every node waits once at most. -/
def fillAll (fuel : Nat) : Nat → Building Unit
  | 0 => refuse "too many nodes"
  | more + 1 => do
    let s ← get
    match s.waiting with
    | [] => pure ()
    | n :: rest =>
      set { s with waiting := rest }
      fill fuel n
      fillAll fuel more

end Building

/-! ### Values -/

/-- What the nodes of a document stand for. -/
structure Document where
  /-- What the nodes stand for by number. -/
  contents : List (Option Content)
  /-- The number of the node that the others are parts of. -/
  root : Nat

namespace Document

/-- What the nodes of a graph stand for; `fuel` is enough to take over entries. -/
def ofGraph (fuel : Nat) (g : Graph) : Except Problem Document := do
  let count := g.nodes.length
  let whole : Building Unit := do
    Building.build g.root
    Building.fillAll fuel (count + 1)
  let (_, s) ← whole.run ⟨g.nodes, List.replicate count none, []⟩
  return ⟨s.contents, g.root⟩

/-- What a node stands for. -/
def content (d : Document) (n : Nat) : Content := ((d.contents[n]?).join).getD (.single .null)

/-- The value of a node inside others; a node that is one of them is not shown again. -/
def valueWithin (d : Document) : Nat → List Nat → Nat → Value
  | 0, _, _ => .null
  | fuel + 1, around, n =>
    let inside := d.valueWithin fuel (n :: around)
    match d.content n with
    | .single v => v
    | .series items => if n ∈ around then .enclosing false else .series (items.map inside)
    | .pairs items =>
      if n ∈ around then .enclosing false
      else .series (items.map fun (k, v) => .group [inside k, inside v])
    | .members items => .members items
    | .table entries =>
      if n ∈ around then .enclosing true else .table (entries.map fun (k, v) => (k, inside v))

/-- The value of a node as it is by itself. No node is inside itself twice, so there are enough steps. -/
def value (d : Document) (n : Nat) : Value := d.valueWithin (d.contents.length + 1) [] n

/-- A table with its values as they are by themselves, each made from its key and its node; any other node
as it is. -/
def openedWith (d : Document) (part : Value → Nat → Value) (n : Nat) : Value :=
  match d.content n with
  | .table entries => .table (entries.map fun (k, m) => (k, part k m))
  | _ => d.value n

/-- The value of a node from which others are taken out, down the given names. -/
def opened (d : Document) : List String → Nat → Value
  | [], n => d.openedWith (fun _ m => d.value m) n
  | name :: names, n =>
    d.openedWith (fun k m => if k.sameKey (.text name) then d.opened names m else d.value m) n

end Document

/-- Whether a character may stand in a document. -/
def isPrintable (c : Char) : Bool :=
  let n := c.toNat
  n = 9 || n = 10 || n = 13 || (32 ≤ n && n ≤ 126) || n = 0x85 || (0xa0 ≤ n && n ≤ 0xd7ff)
    || (0xe000 ≤ n && n ≤ 0xfffd) || 0x10000 ≤ n

/-- The value of a text, from which others are taken out down the given names. -/
def read (names : List String) (text : List Char) : Except Problem Value := do
  if !text.all isPrintable then throw (.document "unexpected character")
  match ← Graph.ofText text with
  | none => return .null
  | some g =>
    let d ← Document.ofGraph (4 * text.length + 8) g
    return d.opened names d.root

end ImageSigning.Yaml
