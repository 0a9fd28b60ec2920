import ImageSigning.Image

/-!
# Writing the result

A signed image is written whole, or one of its signatures by itself. A file is replaced only when its
new content is complete; what was there before stays if anything goes wrong.

* `Image.write`: the image with all its signatures, or the newest signature only.
* `Image.writeTo`: the same, to the place that a setting names.
-/

namespace ImageSigning

/-- Writes octets to a file, all or nothing. -/
def writeFile (path : String) (b : Bytes) : Run Unit := do
  let w ← get
  let shown := FileSystem.simplify path
  let (outcome, files) := w.files.replace path b
  set { w with files }
  match outcome with
  | .ok () => Run.tell (.fileWritten shown b.length)
  | .error (.system e) => Run.fail (.output (.unwritable shown e))
  | .error .nullCharacter => Run.defect .nullCharacter

namespace Image

/-- Writes the image with all its signatures. -/
def writeCombined (image : Image) (path : String) : Run Unit := do
  writeFile path (← Run.lift .defect image.toBytes)

/-- Writes the signature with a number. -/
def writeDetached (image : Image) (index : Int) (path : String) : Run Unit :=
  match image.signatures.get index with
  | none => Run.fail (.output (.noSuchSignature image.path index path))
  | some x => writeFile path x.der

/-- Writes the result of signing and counts the signatures written. -/
def write (image : Image) (detached : Bool) (path : String) : Run Nat := do
  let s := image.signatures
  if detached then
    match s.lastIndex? with
    | none => Run.fail (.output (.nothingToDetach image.path path))
    | some index =>
      image.writeDetached index path
      Run.tell (.detachedWritten path index)
      return 1
  else
    image.writeCombined path
    Run.tell (.combinedWritten path s.count)
    return s.count

/-- Writes the result of signing to where a setting says. A setting that is no path is noticed only
when there is something to write. -/
def writeTo (image : Image) (detached : Bool) : Value → Run Nat
  | .text path => image.write detached path
  | _ => do
    if !detached then discard <| Run.lift .defect image.toBytes
    Run.defect .wrongType

end Image

end ImageSigning
