import ImageSigning.Bytes.Hex

/-!
# Problems of an image's layout

The headers of an image, its certificate table and the digest taken over it have to fit together.
-/

namespace ImageSigning

/-- A problem of an image's layout. -/
inductive LayoutProblem where
  | digestLength (algorithm : String) (expected actual : Nat)
  | checksumNotBeforeEntry (checksum entry : Int)
  | entryOutsideImage (entry : Int) (size : Nat)
  | truncatedEntry (offset : Nat)
  | invalidLength (length offset : Nat)
  | unsupportedType (type offset : Nat)
  | notImage (path diagnosis : String)
  | noTableDirectory (path : String)
  | tableNotAtEnd (path : String) (offset size length : Nat)
  | tableOverlapsHeaders (path : String)
  deriving DecidableEq, Repr

namespace LayoutProblem

/-- The problem in words. -/
def message : LayoutProblem → String
  | digestLength algorithm expected actual =>
    s!"{algorithm} digest must be {expected} bytes, got {actual}"
  | checksumNotBeforeEntry checksum entry =>
    s!"CheckSum field at 0x{Hex.ofInt checksum} is not before the "
      ++ s!"certificate table entry at 0x{Hex.ofInt entry}"
  | entryOutsideImage entry size =>
    s!"Certificate table entry at 0x{Hex.ofInt entry} lies outside the image ({size} bytes)"
  | truncatedEntry offset => s!"Truncated certificate table entry at offset {offset}"
  | invalidLength length offset => s!"Invalid certificate length {length} at offset {offset}"
  | unsupportedType type offset =>
    s!"Unsupported certificate type 0x{Hex.ofNatWide type} at offset {offset}"
  | notImage path diagnosis => s!"{path} is not a PE/COFF image: {diagnosis}"
  | noTableDirectory path => s!"{path} has no certificate table data directory"
  | tableNotAtEnd path offset size length =>
    s!"Certificate table of {path} (0x{Hex.ofNat offset}+0x{Hex.ofNat size}) "
      ++ s!"is not at the end of the image ({length} bytes)"
  | tableOverlapsHeaders path => s!"Certificate table of {path} overlaps the image headers"

/-- The same problem with its diagnosis reworded. -/
def reword (f : String → String) : LayoutProblem → LayoutProblem
  | notImage path diagnosis => notImage path (f diagnosis)
  | p => p

end LayoutProblem

end ImageSigning
