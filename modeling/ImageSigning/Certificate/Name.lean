import ImageSigning.Der.Value
import ImageSigning.Text.Utf8
import ImageSigning.Text.Wide
import ImageSigning.Bytes.Hex

/-!
# Names

A name is a sequence of groups of attributes. It is kept as it was read: a certificate that names
something odd is still a certificate, and its name still identifies it octet by octet. Only where the
name is shown are the values turned into text, and only then can a value be at fault.

* `Name.ofTlv?`: the structure that every name has.
* `Name.show`: the groups in reverse order, each attribute with its short name and escaped value.
-/

namespace ImageSigning

open Der

/-- Why a name cannot be shown. -/
inductive NameProblem where
  /-- A value is not text in the encoding of its type. -/
  | notText
  /-- A value has a type that is not a text type. -/
  | unknownType
  /-- A bit string where text has to be, or text where a bit string has to be. -/
  | misplacedBits
  /-- A group without attributes. -/
  | emptyGroup
  /-- A group with the same attribute twice. -/
  | repeated
  deriving DecidableEq, Repr

/-- An attribute as it was read. -/
structure RawAttribute where
  /-- What the attribute is about. -/
  type : Oid
  /-- The value as an element. -/
  value : Tlv
  deriving DecidableEq, Repr

/-- The value of an attribute. -/
inductive AttributeValue where
  | text (s : String)
  | bits (b : Bytes)
  deriving DecidableEq, Repr

/-- An attribute that can be shown. -/
structure NameAttribute where
  /-- What the attribute is about. -/
  type : Oid
  /-- The value. -/
  value : AttributeValue
  deriving DecidableEq, Repr

/-- A name. -/
structure Name where
  /-- The element that holds the name. -/
  whole : Bytes
  /-- The attributes of each group. -/
  groups : List (List RawAttribute)
  deriving DecidableEq, Repr

namespace NameAttribute

/-- The attribute whose values are bit strings. -/
def uniqueIdentifierOid : Oid := [2, 5, 4, 45]

/-- The short name of an attribute that has one. -/
def shortName? (type : Oid) : Option String :=
  List.lookup type
    [([2, 5, 4, 3], "CN"), ([2, 5, 4, 7], "L"), ([2, 5, 4, 8], "ST"), ([2, 5, 4, 10], "O"),
      ([2, 5, 4, 11], "OU"), ([2, 5, 4, 6], "C"), ([2, 5, 4, 9], "STREET"),
      ([0, 9, 2342, 19200300, 100, 1, 25], "DC"), ([0, 9, 2342, 19200300, 100, 1, 1], "UID")]

/-- The identifier octets of the text types that are written like UTF-8. -/
def textTypes : List UInt8 := [4, 12, 18, 19, 20, 22, 23, 24, 26]

/-- The value that an element holds. -/
def readValue (e : Tlv) : Except NameProblem AttributeValue :=
  let tag := e.whole.headD 0
  if tag &&& 0x1f = 0x1f then .error .notText
  else if tag = 3 then .ok (.bits e.content)
  else
    let text : Option String :=
      if tag = 30 then Text.decodeWide? e.content
      else if tag = 28 then Text.decodeWidest? e.content
      else Utf8.decode? e.content
    if !(textTypes.contains tag || tag = 28 || tag = 30) then .error .unknownType
    else match text with
      | none => .error .notText
      | some s => .ok (.text s)

/-- The attribute that was read. -/
def ofRaw (a : RawAttribute) : Except NameProblem NameAttribute := do
  let v ← readValue a.value
  match v with
  | .text _ => if a.type = uniqueIdentifierOid then throw .misplacedBits
  | .bits _ => if a.type ≠ uniqueIdentifierOid then throw .misplacedBits
  return ⟨a.type, v⟩

/-- A character of a value with its escape. -/
def escapeChar (c : Char) : List Char :=
  if ['\\', '"', '+', ',', ';', '<', '>'].contains c then ['\\', c]
  else if c = '\x00' then ['\\', '0', '0']
  else [c]

/-- A value's characters, with a last blank escaped. -/
def escapeRest : List Char → List Char
  | [] => []
  | [c] => if c = ' ' then ['\\', ' '] else escapeChar c
  | c :: r => escapeChar c ++ escapeRest r

/-- A value's characters with their escapes. -/
def escape : List Char → List Char
  | [] => []
  | c :: r =>
    if c = '#' then '\\' :: '#' :: escapeRest r
    else if c = ' ' ∧ r ≠ [] then '\\' :: ' ' :: escapeRest r
    else escapeRest (c :: r)

/-- The attribute as names show it. -/
def shown (a : NameAttribute) : String :=
  let value := match a.value with
    | .text s => String.ofList (escape s.toList)
    | .bits [] => ""
    | .bits b => "#" ++ Hex.encode b
  (shortName? a.type).getD a.type.toText ++ "=" ++ value

end NameAttribute

namespace Name

/-- Whether the content of an element suits its type, for the types whose content is looked at. -/
def isSound (e : Tlv) : Bool :=
  match e.whole.headD 0 with
  | 19 => e.content.all fun x =>
      (65 ≤ x && x ≤ 90) || (97 ≤ x && x ≤ 122) || (48 ≤ x && x ≤ 57)
        || (Bytes.ofAscii " '()+,-./:=?").contains x
  | 28 => (Text.decodeWidest? e.content).isSome
  | 30 => (Text.decodeWide? e.content).isSome
  | _ => true

/-- An attribute from its element. -/
def attribute? (e : Tlv) : Option RawAttribute := do
  match ← e.strictSequence? with
  | [type, value] =>
    let type ← type.strictOid?
    if isSound value then some ⟨type, value⟩ else none
  | _ => none

/-- Lexicographic order of octets, a beginning standing before the whole. -/
def notAfter : Bytes → Bytes → Bool
  | [], _ => true
  | _ :: _, [] => false
  | x :: r, y :: s => if x = y then notAfter r s else x < y

/-- Whether the elements of a set stand in order. -/
def inOrder : List Tlv → Bool
  | e :: f :: r => notAfter e.whole f.whole && inOrder (f :: r)
  | _ => true

/-- The attributes of a group. -/
def group? (e : Tlv) : Option (List RawAttribute) := do
  let members ← e.set? .distinguished
  if inOrder members then members.mapM attribute? else none

/-- A name from its element. -/
def ofTlv? (e : Tlv) : Option Name := do
  some ⟨e.whole, ← (← e.strictSequence?).mapM group?⟩

/-- Whether a list holds a member twice. -/
def hasRepeated : List NameAttribute → Bool
  | [] => false
  | a :: r => r.contains a || hasRepeated r

/-- The attributes of one group. -/
def readGroup (group : List RawAttribute) : Except NameProblem (List NameAttribute) := do
  let attributes ← group.mapM NameAttribute.ofRaw
  if attributes.isEmpty then throw .emptyGroup
  if hasRepeated attributes then throw .repeated
  return attributes

/-- The attributes of every group. -/
def read (n : Name) : Except NameProblem (List (List NameAttribute)) := n.groups.mapM readGroup

/-- The name as it is shown. -/
def «show» (n : Name) : Except NameProblem String := do
  let groups ← n.read
  return ",".intercalate (groups.reverse.map fun g => "+".intercalate (g.map (·.shown)))

end Name

end ImageSigning
