import ImageSigning.Text.Parts

/-!
# What a scalar stands for

A tag says what kind of value a node stands for. A plain scalar without a tag says so by the way it is
written: flags and the absent value are words, numbers and dates have forms of their own, two marks
have a meaning in mappings only, and everything else is text.

* `Kind.ofTag`: the kind that a tag names.
* `Kind.ofPlain`: the kind that a plain scalar is written as.
-/

namespace ImageSigning.Yaml

/-- What a node stands for. -/
inductive Kind where
  | null
  | flag
  | integer
  | real
  | octets
  | moment
  | text
  | sequence
  | mapping
  /-- Pairs in the order of their keys. -/
  | ordered
  | pairs
  | members
  /-- The key under which a mapping takes over others. -/
  | merge
  /-- The key under which a mapping holds what it counts as. -/
  | content
  /-- Nothing known. -/
  | unknown
  deriving DecidableEq, Repr

namespace Kind

/-- What the tags of the known kinds begin with. -/
def tagBeginning : String := "tag:yaml.org,2002:"

/-- The kinds by the ends of their tags. -/
def names : List (String × Kind) :=
  [("null", null), ("bool", flag), ("int", integer), ("float", real), ("binary", octets),
    ("timestamp", moment), ("str", text), ("seq", sequence), ("map", mapping), ("omap", ordered),
    ("pairs", pairs), ("set", members), ("merge", merge), ("value", content)]

/-- The kind that a tag names. -/
def ofTag (tag : String) : Kind :=
  if tag.startsWith tagBeginning then
    (names.lookup (tag.drop tagBeginning.length).toString).getD unknown
  else unknown

/-! ### Forms of numbers -/

/-- Whether a character is a digit or an underscore. -/
def isDigitOrGap (c : Char) : Bool := c.isDigit || c = '_'

/-- The characters without a sign. -/
def unsigned : List Char → List Char
  | '-' :: r | '+' :: r => r
  | cs => cs

/-- Whether there is one character at least and all satisfy a condition. -/
def someAll (p : Char → Bool) (cs : List Char) : Bool := !cs.isEmpty && cs.all p

/-- Whether characters are digits and underscores beginning with a digit. -/
def isDigits : List Char → Bool
  | c :: r => c.isDigit && r.all isDigitOrGap
  | [] => false

/-- The parts between colons. -/
def colonParts (cs : List Char) : List (List Char) := Text.partsOf ':' cs

/-- Whether characters are one or two digits below sixty. -/
def isSixtieth : List Char → Bool
  | [c] => c.isDigit
  | [c, d] => '0' ≤ c && c ≤ '5' && d.isDigit
  | _ => false

/-- Whether characters are digits that begin with something else than zero. -/
def isDecimal : List Char → Bool
  | '0' :: _ => false
  | cs => isDigits cs

/-- Whether an unsigned number is an integer: in base two, eight, ten, sixteen or sixty. -/
def isUnsignedInteger (cs : List Char) : Bool :=
  match cs with
  | ['0'] => true
  | '0' :: 'b' :: r => someAll (fun c => c = '0' || c = '1' || c = '_') r
  | '0' :: 'x' :: r =>
    someAll (fun c => isDigitOrGap c || ('a' ≤ c && c ≤ 'f') || ('A' ≤ c && c ≤ 'F')) r
  | '0' :: r => someAll (fun c => ('0' ≤ c && c ≤ '7') || c = '_') r
  | _ =>
    match colonParts cs with
    | [whole] => isDecimal whole
    | whole :: parts => isDecimal whole && parts.all isSixtieth
    | [] => false

/-- Whether a plain scalar is an integer. -/
def isInteger (cs : List Char) : Bool := isUnsignedInteger (unsigned cs)

/-- Whether characters are nothing or an exponent with its sign. -/
def isExponent : List Char → Bool
  | [] => true
  | [_] => false
  | e :: sign :: r => (e = 'e' || e = 'E') && (sign = '-' || sign = '+') && someAll Char.isDigit r

/-- Whether characters are a fraction behind its point, with or without an exponent. -/
def isFraction (cs : List Char) : Bool := isExponent (cs.dropWhile isDigitOrGap)

/-- Whether an unsigned number has a point behind digits, or behind parts in base sixty. -/
def isUnsignedReal (cs : List Char) : Bool :=
  let whole := cs.takeWhile (· ≠ '.')
  match cs.dropWhile (· ≠ '.'), colonParts whole with
  | '.' :: fraction, [_] => isDigits whole && isFraction fraction
  | '.' :: fraction, first :: parts =>
    isDigits first && parts.all isSixtieth && fraction.all isDigitOrGap
  | _, _ => false

/-- Whether a plain scalar is a number with a fraction. -/
def isReal (cs : List Char) : Bool :=
  match cs with
  | '.' :: c :: r => (c.isDigit && isFraction r)
      || [".nan", ".NaN", ".NAN", ".inf", ".Inf", ".INF"].contains (String.ofList cs)
  | _ => isUnsignedReal (unsigned cs)
      || [".inf", ".Inf", ".INF"].contains (String.ofList (unsigned cs))

/-! ### Forms of dates -/

/-- The text behind `least` to `most` digits, if it begins with so many; as many as possible count. -/
def digits? (least most : Nat) (cs : List Char) : Option (List Char) :=
  let n := ((cs.take most).takeWhile Char.isDigit).length
  if n < least then none else some (cs.drop n)

/-- The text behind a character. -/
def character? (c : Char) : List Char → Option (List Char)
  | d :: r => if d = c then some r else none
  | [] => none

/-- Whether a character is a blank or a tab. -/
def isGapChar (c : Char) : Bool := c = ' ' || c = '\t'

/-- Whether characters are an offset from universal time, or nothing. -/
def isOffset (cs : List Char) : Bool :=
  match cs.dropWhile isGapChar with
  | [] => cs.isEmpty
  | ['Z'] => true
  | sign :: r =>
    (sign = '-' || sign = '+') &&
      match digits? 1 2 r with
      | some [] => true
      | some (':' :: m) => digits? 2 2 m = some []
      | _ => false

/-- The text behind what separates a date from a time. -/
def separator? (cs : List Char) : Option (List Char) :=
  match cs with
  | 'T' :: r | 't' :: r => some r
  | c :: r => if isGapChar c then some (r.dropWhile isGapChar) else none
  | [] => none

/-- Whether characters are a time of day, with or without a fraction and an offset. -/
def isTime (cs : List Char) : Bool :=
  match do
    let r ← digits? 1 2 cs
    let r ← digits? 2 2 (← character? ':' r)
    digits? 2 2 (← character? ':' r)
  with
  | some ('.' :: r) => isOffset (r.dropWhile Char.isDigit)
  | some r => isOffset r
  | none => false

/-- What follows the day of a date, if a text begins with one. -/
def afterDate? (cs : List Char) : Option (List Char) := do
  let r ← character? '-' (← digits? 4 4 cs)
  digits? 1 2 (← character? '-' (← digits? 1 2 r))

/-- Whether a text is a date, or a date and a time. -/
def isMoment (cs : List Char) : Bool :=
  match afterDate? cs with
  | none => false
  | some [] => true
  | some r => (separator? r).any isTime

/-- Whether a plain scalar is a date, or a date and a time. A date by itself has all its digits. -/
def isPlainMoment (cs : List Char) : Bool := isMoment cs && (cs.length ≥ 10)

/-! ### All forms -/

/-- The words that are flags. -/
def flagWords : List String :=
  ["yes", "Yes", "YES", "no", "No", "NO", "true", "True", "TRUE", "false", "False", "FALSE", "on",
    "On", "ON", "off", "Off", "OFF"]

/-- The words for the absent value. -/
def nullWords : List String := ["", "~", "null", "Null", "NULL"]

/-- The kind that a plain scalar is written as. -/
def ofPlain (s : String) : Kind :=
  let cs := s.toList
  if flagWords.contains s then flag
  else if isReal cs then real
  else if isInteger cs then integer
  else if s = "<<" then merge
  else if nullWords.contains s then null
  else if isPlainMoment cs then moment
  else if s = "=" then content
  else text

end Kind

end ImageSigning.Yaml
