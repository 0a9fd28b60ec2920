import ImageSigning.Bytes

/-!
# Reading DER headers

Certificate table entries carry padding after their signature and may hold elements that are no
signature at all, so the extent of an element is read off its header alone: one identifier octet,
then a length in short form or in long form, not necessarily the shortest. The indefinite form has no
extent.

* `elementLength?_le`: an element that fits lies within the octets.
-/

namespace ImageSigning.Der

/-- The content behind an identifier octet and a length field; `none` where there is no length field.
The length itself is not consulted. -/
def content? : Bytes → Option Bytes
  | _ :: length :: r =>
    if length &&& 0x80 = 0 then some r else some (r.drop (length &&& 0x7f).toNat)
  | _ => none

/-- The extent that a header declares, without regard to how much there is. -/
def declaredLength? : Bytes → Option Nat
  | _ :: length :: r =>
    if length &&& 0x80 = 0 then some (2 + length.toNat)
    else
      let count := (length &&& 0x7f).toNat
      if count = 0 ∨ r.length < count then none
      else some (2 + count + Bytes.toNat (r.take count))
  | _ => none

/-- The extent of the leading element, `none` where it is indefinite or does not fit. -/
def elementLength? (b : Bytes) : Option Nat :=
  (declaredLength? b).filter (· ≤ b.length)

/-- An element that a text begins with is no longer than the text. -/
theorem elementLength?_le {b : Bytes} {n : Nat} (h : elementLength? b = some n) :
    n ≤ b.length := by
  simpa using (Option.filter_eq_some_iff.1 h).2

end ImageSigning.Der
