import ImageSigning.Failure.Configuration
import ImageSigning.Failure.File
import ImageSigning.Failure.Key
import ImageSigning.Failure.Layout
import ImageSigning.Failure.Envelope
import ImageSigning.Failure.Chain

/-!
# Reported failures

A run that fails stops at the first problem. `Failure` is that problem with the little context that
reports add: a code, the message, and named details. What came from a decoder or from the operating
system is a diagnosis inside the message; `reword` replaces it.

* `Failure.code`, `Failure.message`, `Failure.details`: what a report says.
-/

namespace ImageSigning

/-- A failure that a run reports. -/
inductive Failure where
  | configuration (problem : ConfigurationProblem)
  | reading (problem : ReadProblem)
  | key (problem : KeyProblem)
  /-- The key does not belong to the certificate with this subject. -/
  | mismatch (subject : String)
  | layout (path : Option String) (problem : LayoutProblem)
  | envelope (problem : EnvelopeProblem)
  | chain (path : String) (problem : ChainProblem)
  | output (problem : OutputProblem)
  deriving DecidableEq, Repr

/-- A detail of a report. -/
inductive Detail where
  | absent
  | text (s : String)
  | number (n : Nat)
  deriving DecidableEq, Repr

/-- A text that may be absent, as a detail. -/
def Detail.ofText? : Option String → Detail
  | none => .absent
  | some s => .text s

/-- A number that may be absent, as a detail. -/
def Detail.ofNumber? : Option Nat → Detail
  | none => .absent
  | some n => .number n

/-- A detail as diagnostic output shows it. -/
def Detail.display : Detail → String
  | absent => "None"
  | text s => Text.quoted s
  | number n => toString n

namespace Failure

/-- The code that reports begin with. -/
def code : Failure → String
  | configuration _ => "CONFIGURATION_ERROR"
  | reading _ => "IO_ERROR"
  | key _ => "KEY_LOAD_ERROR"
  | mismatch _ => "KEY_MISMATCH"
  | layout _ _ => "DIGEST_ERROR"
  | envelope _ => "ENVELOPE_CONSTRUCTION_ERROR"
  | chain _ _ => "CHAIN_PARSE_ERROR"
  | output _ => "SERIALIZATION_ERROR"

/-- The failure in words. -/
def message : Failure → String
  | configuration p => p.message
  | reading p => p.message
  | key p => p.message
  | mismatch subject =>
    s!"Error in key/certificate chain: private key does not match certificate {subject}"
  | layout _ p => p.message
  | envelope p => p.message
  | chain path p => p.message path
  | output p => p.message

/-- The named details, in the order in which reports list them. -/
def details : Failure → List (String × Detail)
  | configuration p => [("option", .text p.option)]
  | reading p => [("path", .text p.path)]
  | key p => [("source", .ofText? p.source)]
  | mismatch _ => [("source", .absent)]
  | layout path _ => [("path", .ofText? path)]
  | envelope p => [("reason", .text p.reason)]
  | chain path p => [("path", .text path), ("block", .ofNumber? p.block?)]
  | output p => [("path", .text p.path)]

/-- Code, message and details on one line, as diagnostic output shows them. -/
def display (f : Failure) : String :=
  let details := f.details.map fun (name, d) => Text.quoted name ++ ": " ++ d.display
  "\x7b'error': " ++ Text.quoted f.code ++ ", 'message': " ++ Text.quoted f.message
    ++ ", 'details': \x7b" ++ ", ".intercalate details ++ "\x7d\x7d"

/-- The same failure with its diagnosis reworded. -/
def reword (f : String → String) : Failure → Failure
  | configuration p => configuration (p.reword f)
  | key p => key (p.reword f)
  | layout path p => layout path (p.reword f)
  | envelope p => envelope (p.reword f)
  | chain path p => chain path (p.reword f)
  | other => other

end Failure

end ImageSigning
