import ImageSigning.SystemError

/-!
# Problems of files

Key, certificate and chain files are looked for first and read then, so that a missing file and an
unreadable one are told apart; the image is opened at once. Of the result there may be no signature to
write, or the file system may refuse its file.
-/

namespace ImageSigning

/-- What an input file is for. -/
inductive FileRole where
  | privateKey
  | certificate
  | chain
  deriving DecidableEq, Repr

/-- The role in words. -/
def FileRole.label : FileRole → String
  | privateKey => "Private key"
  | certificate => "Certificate"
  | chain => "Certificate chain"

/-- A problem of reading an input file. -/
inductive ReadProblem where
  | absent (role : FileRole) (path : String)
  | unreadable (role : FileRole) (path : String) (cause : SystemError)
  | imageUnreadable (path : String) (cause : SystemError)
  deriving DecidableEq, Repr

namespace ReadProblem

/-- The file that could not be read. -/
def path : ReadProblem → String
  | absent _ path | unreadable _ path _ | imageUnreadable path _ => path

/-- The problem in words. -/
def message : ReadProblem → String
  | absent role path => s!"{role.label} file not found: {path}"
  | unreadable role path cause => s!"Cannot read {role.label} file {path}: {cause.text}"
  | imageUnreadable path cause => s!"Cannot read image {path}: {cause.text}"

end ReadProblem

/-- A problem of writing the result to `path`. -/
inductive OutputProblem where
  | noSuchSignature (image : String) (index : Int) (path : String)
  | nothingToDetach (image path : String)
  | unwritable (path : String) (cause : SystemError)
  deriving DecidableEq, Repr

namespace OutputProblem

/-- The file that was to be written. -/
def path : OutputProblem → String
  | noSuchSignature _ _ path | nothingToDetach _ path | unwritable path _ => path

/-- The problem in words. -/
def message : OutputProblem → String
  | noSuchSignature image index _ => s!"Image {image} has no signature #{index}"
  | nothingToDetach image _ => s!"No signature to write in detached mode for {image}"
  | unwritable path cause => s!"Cannot write output file {path}: {cause.text}"

end OutputProblem

end ImageSigning
