import ImageSigning.Der.Element

/-!
# The order of a SET OF

DER sorts the encodings of a set's members octet by octet, the shorter one taken as followed by
zeros. `compareOctets` is that comparison and needs no common width: an encoding that has ended
compares as zero with what is left of the other. Each member is put before the first one of the
sorted rest that it may precede, so members that compare equal keep the order in which they were
given.

* `ordered_perm`: sorting only rearranges.
* `length_flatten_ordered`: the sorted members take as much room as the given ones.
-/

namespace ImageSigning.Der

/-- Octet-wise comparison, the shorter side followed by zeros. -/
def compareOctets : Bytes → Bytes → Ordering
  | [], s => if s.all (· = 0) then .eq else .lt
  | x :: r, [] => if x = 0 then compareOctets r [] else .gt
  | x :: r, y :: s => if x = y then compareOctets r s else if x < y then .lt else .gt

/-- Whether the first encoding may stand before the second. -/
def precedes (x y : Bytes) : Bool := compareOctets x y != .gt

/-- Puts an encoding before the first one that it may precede. -/
def place (x : Bytes) : List Bytes → List Bytes
  | [] => [x]
  | y :: r => if precedes x y then x :: y :: r else y :: place x r

/-- The encodings in the order of a SET OF. -/
def ordered : List Bytes → List Bytes
  | [] => []
  | x :: r => place x (ordered r)

/-- The members of a SET OF under the given identifier octet. -/
def setOf (identifier : UInt8) (members : List Bytes) : Bytes :=
  element identifier (ordered members).flatten

/-- Placing a member adds it and nothing else. -/
theorem place_perm (x : Bytes) (members : List Bytes) : (place x members).Perm (x :: members) := by
  induction members with
  | nil => rfl
  | cons y r ih =>
    unfold place
    split
    · rfl
    · exact (ih.cons y).trans (.swap x y r)

/-- Putting members in order neither adds nor loses any. -/
theorem ordered_perm (members : List Bytes) : (ordered members).Perm members := by
  induction members with
  | nil => rfl
  | cons x r ih => exact (place_perm x (ordered r)).trans (ih.cons x)

/-- Members take as many octets in order as they took before. -/
theorem length_flatten_ordered (members : List Bytes) :
    (ordered members).flatten.length = members.flatten.length :=
  (ordered_perm members).flatten.length_eq

end ImageSigning.Der
