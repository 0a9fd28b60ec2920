import ImageSigning.Text.Integer
import ImageSigning.Text.Parts
import ImageSigning.Bytes

/-!
# Object identifiers

An object identifier is its sequence of arcs. As text the arcs are joined by points; as octets the
first two arcs share one number and every number is written in groups of seven bits, all but the last
marked by the high bit.

* `ofText?`: empty parts of the text are passed over.
* `encode?`: at least two arcs, the first at most two, and the second at most 39 under the first two
  roots.
* `decode?`: the reading that signatures get. A number may not begin with an empty group and may not
  be cut short.
-/

namespace ImageSigning

/-- An object identifier, arc by arc. -/
abbrev Oid := List Nat

namespace Oid

/-- The arcs joined by points. -/
def toText (oid : Oid) : String := ".".intercalate (oid.map fun arc => toString arc)

/-- The arcs of a text; a hyphen anywhere spoils it. -/
def ofText? (s : String) : Option Oid :=
  if s.toList.contains '-' then none
  else ((Text.parts '.' s).filter (· ≠ "")).mapM fun part => (Text.readInteger? part).map Int.toNat

/-- The groups of seven bits of a number, least significant first, `fuel` at most. -/
def groupsFrom : Nat → Nat → List Nat
  | 0, _ => []
  | fuel + 1, n => if n < 128 then [n] else n % 128 :: groupsFrom fuel (n / 128)

/-- A number in groups of seven bits, all but the last marked. -/
def encodeNumber (n : Nat) : Bytes :=
  match groupsFrom (n.log2 + 1) n with
  | [] => [0]
  | last :: marked => (marked.map fun g => UInt8.ofNat (g + 128)).reverse ++ [UInt8.ofNat last]

/-- The numbers that are written: the first two arcs as one. -/
def numbers? : Oid → Option (List Nat)
  | first :: second :: rest =>
    if first = 2 then some ((second + 80) :: rest)
    else if first < 2 ∧ second ≤ 39 then some ((40 * first + second) :: rest)
    else none
  | _ => none

/-- The content octets; `none` where the first two arcs do not fit together. -/
def encode? (oid : Oid) : Option Bytes := (numbers? oid).map fun ns => ns.flatMap encodeNumber

/-- The numbers in the octets, each ended by an unmarked group. `begun` holds the number read so far
within one. -/
def readNumbers? : Option Nat → Bytes → Option (List Nat)
  | none, [] => some []
  | some _, [] => none
  | none, x :: r =>
    if x < 128 then (readNumbers? none r).map (x.toNat :: ·)
    else if x = 128 then none
    else readNumbers? (some (x.toNat - 128)) r
  | some n, x :: r =>
    if x < 128 then (readNumbers? none r).map ((n * 128 + x.toNat) :: ·)
    else readNumbers? (some (n * 128 + (x.toNat - 128))) r

/-- The arcs behind the written numbers. -/
def ofNumbers : List Nat → Oid
  | [] => []
  | n :: rest =>
    if n < 40 then 0 :: n :: rest else if n < 80 then 1 :: (n - 40) :: rest
    else 2 :: (n - 80) :: rest

/-- The identifier in the content octets. -/
def decode? (b : Bytes) : Option Oid :=
  if b.isEmpty then none else (readNumbers? none b).map ofNumbers

/-- Parting the joint number gives back the two arcs that it was made of. -/
theorem ofNumbers_of_numbers? {oid : Oid} {ns : List Nat} (h : numbers? oid = some ns) :
    ofNumbers ns = oid := by
  match oid with
  | [] => simp [numbers?] at h
  | [_] => simp [numbers?] at h
  | first :: second :: rest =>
    simp only [numbers?] at h
    split at h
    · obtain rfl := Option.some.inj h
      rename_i two
      simp [ofNumbers, two, show ¬ second + 80 < 40 by omega, show ¬ second + 80 < 80 by omega]
    · split at h
      · obtain rfl := Option.some.inj h
        rename_i _ fits
        obtain ⟨small, bound⟩ := fits
        have zero_or_one : first = 0 ∨ first = 1 := by omega
        rcases zero_or_one with rfl | rfl
        · simp [ofNumbers, show second < 40 by omega]
        · simp [ofNumbers, show ¬ 40 + second < 40 by omega, show 40 + second < 80 by omega]
      · simp at h

end Oid

end ImageSigning
