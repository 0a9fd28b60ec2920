import ImageSigning.Der.Element

/-!
# Reading tagged elements

Both kinds of input hold elements of tag, length and content, and are read under one of two rules.
Signatures are read under the basic rules: a length may be written in more octets than needed.
Certificates and keys are read under the distinguished rules: lengths and tag numbers take the fewest
octets, and a length at most four. Neither rule knows the indefinite form.

* `Tlv.readMany?`: the elements that make up an octet string, nothing left over.
* `Tlv.length_rest_lt`: reading an element leaves fewer octets.
-/

namespace ImageSigning.Der

/-- How strictly headers are read. -/
inductive Rules where
  /-- Any definite length. -/
  | basic
  /-- The shortest writing only. -/
  | distinguished
  deriving DecidableEq

/-- The four classes of tags. -/
inductive TagClass where
  | universal
  | application
  | context
  | privateUse
  deriving DecidableEq, Repr

/-- The class in the two high bits of an identifier octet. -/
def TagClass.ofOctet (x : UInt8) : TagClass :=
  if x < 0x40 then .universal else if x < 0x80 then .application
  else if x < 0xc0 then .context else .privateUse

/-- One element with its parts. -/
structure Tlv where
  /-- Class of the tag. -/
  tagClass : TagClass
  /-- Whether the content is said to consist of elements. -/
  constructed : Bool
  /-- Number of the tag. -/
  number : Nat
  /-- The octets behind the header. -/
  content : Bytes
  /-- Header and content. -/
  whole : Bytes
  deriving DecidableEq, Repr

namespace Tlv

/-- A tag number in groups of seven bits, all but the last marked. -/
def readTagNumber? (n : Nat) : Bytes → Option (Nat × Bytes)
  | [] => none
  | x :: r =>
    if x < 128 then some (n * 128 + x.toNat, r) else readTagNumber? (n * 128 + (x.toNat - 128)) r

/-- The tag number that follows a first octet, and what remains. -/
def readNumber? (rules : Rules) (first : UInt8) (r : Bytes) : Option (Nat × Bytes) :=
  if first &&& 0x1f ≠ 0x1f then some ((first &&& 0x1f).toNat, r)
  else do
    let (n, rest) ← readTagNumber? 0 r
    if rules = .basic ∨ (31 ≤ n ∧ n < 0x10000000 ∧ r.head? ≠ some 0x80) then some (n, rest) else none

/-- A length, and what remains. -/
def readLength? (rules : Rules) : Bytes → Option (Nat × Bytes)
  | [] => none
  | x :: r =>
    if x < 128 then some (x.toNat, r)
    else
      let count := x.toNat - 128
      let digits : Bytes := r.take count
      if count = 0 ∨ digits.length < count then none
      else if rules = .basic ∨ (count ≤ 4 ∧ 128 ≤ digits.toNat ∧ r.head? ≠ some 0) then
        some (digits.toNat, r.drop count)
      else none

/-- The first element, and what remains. -/
def read? (rules : Rules) : Bytes → Option (Tlv × Bytes)
  | [] => none
  | first :: r => do
    let (number, afterTag) ← readNumber? rules first r
    let (length, afterLength) ← readLength? rules afterTag
    let content := afterLength.take length
    if content.length < length then none
    else
      let rest := afterLength.drop length
      let whole := (first :: r).take (r.length + 1 - rest.length)
      some (⟨.ofOctet first, first &&& 0x20 ≠ 0, number, content, whole⟩, rest)

/-- The elements that make up the octets, at most `fuel` of them. -/
def readManyWithin? (rules : Rules) : Nat → Bytes → Option (List Tlv)
  | _, [] => some []
  | 0, _ => none
  | fuel + 1, b => do
    let (first, rest) ← read? rules b
    let others ← readManyWithin? rules fuel rest
    some (first :: others)

/-- The elements that make up the octets. -/
def readMany? (rules : Rules) (b : Bytes) : Option (List Tlv) := readManyWithin? rules b.length b

/-- The one element that makes up the octets. -/
def readOnly? (rules : Rules) (b : Bytes) : Option Tlv :=
  match read? rules b with
  | some (e, []) => some e
  | _ => none

/-- Whether the tag is the universal one with number `n`, whatever the form. -/
def isUniversal (e : Tlv) (n : Nat) : Bool := e.tagClass = .universal && e.number = n

/-- Whether the tag is the context-specific one with number `n`, whatever the form. -/
def isContext (e : Tlv) (n : Nat) : Bool := e.tagClass = .context && e.number = n

/-- Whether the element carries the tag that ends contents of indefinite length. -/
def isEndOfContents (e : Tlv) : Bool := e.isUniversal 0

/-- The content of a primitive element with universal tag `n`. -/
def primitive? (e : Tlv) (n : Nat) : Option Bytes :=
  if e.isUniversal n && !e.constructed then some e.content else none

/-- The elements inside a constructed element. -/
def members? (rules : Rules) (e : Tlv) : Option (List Tlv) :=
  if e.constructed then readMany? rules e.content else none

/-- The elements of a SEQUENCE. -/
def sequence? (rules : Rules) (e : Tlv) : Option (List Tlv) :=
  if e.isUniversal 16 then e.members? rules else none

/-- The elements of a SET. -/
def set? (rules : Rules) (e : Tlv) : Option (List Tlv) :=
  if e.isUniversal 17 then e.members? rules else none

/-- The elements inside the constructed context-specific tag `n`. -/
def context? (rules : Rules) (n : Nat) (e : Tlv) : Option (List Tlv) :=
  if e.isContext n then e.members? rules else none

/-- Reading the number of a tag takes at least one octet. -/
theorem length_readTagNumber? {n m : Nat} {b rest : Bytes}
    (h : readTagNumber? n b = some (m, rest)) : rest.length < b.length := by
  fun_induction readTagNumber? n b with
  | case1 => simp at h
  | case2 n x r small => simp_all
  | case3 n x r large ih => have := ih h; simp; omega

/-- Behind the number of a tag no more is left than before it. -/
theorem length_readNumber?_le {rules : Rules} {first : UInt8} {n : Nat} {b rest : Bytes}
    (h : readNumber? rules first b = some (n, rest)) : rest.length ≤ b.length := by
  unfold readNumber? at h
  split at h
  · simp_all
  · cases found : readTagNumber? 0 b with
    | none => simp [found] at h
    | some p =>
      have shorter := length_readTagNumber? (m := p.1) found
      simp only [found, Option.bind_eq_bind, Option.bind_some] at h
      split at h
      · simp only [Option.some.injEq, Prod.mk.injEq] at h
        rw [← h.2]
        omega
      · simp at h

/-- Reading a length takes at least one octet. -/
theorem length_readLength?_lt {rules : Rules} {n : Nat} {b rest : Bytes}
    (h : readLength? rules b = some (n, rest)) : rest.length < b.length := by
  match b with
  | [] => simp [readLength?] at h
  | x :: r =>
    simp only [readLength?] at h
    split at h
    · simp only [Option.some.injEq, Prod.mk.injEq] at h
      simp [← h.2]
    · split at h
      · simp at h
      · split at h
        · simp only [Option.some.injEq, Prod.mk.injEq] at h
          rw [← h.2, List.length_drop, List.length_cons]
          omega
        · simp at h

/-- Reading an element leaves fewer octets. -/
theorem length_rest_lt {rules : Rules} {e : Tlv} {b rest : Bytes}
    (h : read? rules b = some (e, rest)) : rest.length < b.length := by
  match b with
  | [] => simp [read?] at h
  | first :: r =>
    simp only [read?, Option.bind_eq_bind] at h
    cases number : readNumber? rules first r with
    | none => simp [number] at h
    | some p =>
      have afterTag := length_readNumber?_le (n := p.1) number
      simp only [number, Option.bind_some] at h
      cases length : readLength? rules p.2 with
      | none => simp [length] at h
      | some q =>
        have afterLength := length_readLength?_lt (n := q.1) length
        simp only [length, Option.bind_some] at h
        split at h
        · simp at h
        · simp only [Option.some.injEq, Prod.mk.injEq] at h
          rw [← h.2, List.length_drop, List.length_cons]
          omega

end Tlv

end ImageSigning.Der
