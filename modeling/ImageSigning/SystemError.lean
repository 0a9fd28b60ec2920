/-!
# Operating system errors

What the operating system answers when a file cannot be opened, made or run, with the number and the
wording that reports quote.
-/

namespace ImageSigning

/-- An error of the operating system. -/
inductive SystemError where
  | noEntry
  | notExecutable
  | permission
  | busy
  | exists
  | notDirectory
  | isDirectory
  | notEmpty
  | nameTooLong
  deriving DecidableEq, Repr

namespace SystemError

/-- The error's number. -/
def number : SystemError → Nat
  | noEntry => 2
  | notExecutable => 8
  | permission => 13
  | busy => 16
  | «exists» => 17
  | notDirectory => 20
  | isDirectory => 21
  | nameTooLong => 36
  | notEmpty => 39

/-- The error's wording. -/
def wording : SystemError → String
  | noEntry => "No such file or directory"
  | notExecutable => "Exec format error"
  | permission => "Permission denied"
  | busy => "Device or resource busy"
  | «exists» => "File exists"
  | notDirectory => "Not a directory"
  | isDirectory => "Is a directory"
  | nameTooLong => "File name too long"
  | notEmpty => "Directory not empty"

/-- The error as reports quote it. -/
def text (e : SystemError) : String := s!"[Errno {e.number}] {e.wording}"

end SystemError

end ImageSigning
