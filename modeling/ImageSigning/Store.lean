import ImageSigning.Signature
import ImageSigning.World

/-!
# The signatures of an image

An image carries its signatures in order. Signatures are only ever added, after those that are there,
and are known by the number of those before them.

* `Store.append`: a signature is put behind the others.
* `Store.get`: the signature with a number.
-/

namespace ImageSigning

/-- The signatures of an image, in order. -/
structure Store where
  /-- The signatures. -/
  items : List StoredSignature
  deriving DecidableEq, Repr

namespace Store

/-- Without signatures. -/
def empty : Store := ⟨[]⟩

/-- How many signatures there are. -/
def count (s : Store) : Nat := s.items.length

/-- Adds a signature after the others. -/
def append (s : Store) (x : StoredSignature) : Store := ⟨s.items ++ [x]⟩

/-- The signature with a number, if there is one. -/
def get (s : Store) (index : Int) : Option StoredSignature :=
  if index < 0 then none else s.items[index.toNat]?

/-- The number of the newest signature. -/
def lastIndex? (s : Store) : Option Nat := if s.count = 0 then none else some (s.count - 1)

/-- The newest signature. -/
def latest? (s : Store) : Option StoredSignature := s.items.getLast?

/-- What is told of a signature that is added; a signature whose signer has an unreadable name cannot
be told of. -/
def announce (s : Store) : StoredSignature → Except NameProblem Event
  | .undecoded der _ => .ok (.undecodedStored s.count der.length)
  | .decoded x => x.signer.subject.show.map (.signatureStored s.count)

/-- Tells of a signature that is added. -/
def report (s : Store) (x : StoredSignature) : Run Unit := do
  Run.tell (← Run.lift (fun p => .defect (.name p)) (s.announce x))

/-- A signature that is appended counts as one more. -/
@[simp] theorem count_append (s : Store) (x : StoredSignature) :
    (s.append x).count = s.count + 1 := by
  simp [count, append]

end Store

end ImageSigning
