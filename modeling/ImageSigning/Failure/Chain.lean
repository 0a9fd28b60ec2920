import ImageSigning.Failure.File

/-!
# Problems of a chain file

A bundle of chain certificates is read as a whole or refused; a refusal says which block is to blame,
counted from zero.
-/

namespace ImageSigning

/-- A problem of a bundle of chain certificates. -/
inductive ChainProblem where
  | unreadable (cause : ReadProblem)
  | unterminated (block : Nat)
  | undecodable (block : Nat) (diagnosis : String)
  | truncated (block : Nat)
  deriving DecidableEq, Repr

namespace ChainProblem

/-- The block to blame, where the bundle could be read. -/
def block? : ChainProblem → Option Nat
  | unreadable _ => none
  | unterminated block | undecodable block _ | truncated block => some block

/-- The problem of the bundle at `path` in words. -/
def message (path : String) : ChainProblem → String
  | unreadable cause => s!"Error reading intermediate certificates file: {cause.message}"
  | unterminated block =>
    s!"Certificate #{block} in intermediate certificates file {path} is not terminated"
  | undecodable block diagnosis =>
    s!"Error parsing certificate #{block} in intermediate certificates file {path}: {diagnosis}"
  | truncated block =>
    s!"Certificate #{block} in intermediate certificates file {path} is truncated"

/-- The same problem with its diagnosis reworded. -/
def reword (f : String → String) : ChainProblem → ChainProblem
  | undecodable block diagnosis => undecodable block (f diagnosis)
  | p => p

end ChainProblem

end ImageSigning
