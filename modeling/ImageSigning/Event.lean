import ImageSigning.Failure

/-!
# Events

What a run has to tell while it works, each event with its weight, the part of the library that
tells it, and its words. Nothing that happens depends on what was told.
-/

namespace ImageSigning

/-- How much an event matters. -/
inductive Weight where
  | detail
  | notice
  | warning
  | error
  deriving DecidableEq, Repr

/-- The weight as lines of output show it. -/
def Weight.label : Weight → String
  | detail => "DEBUG"
  | notice => "INFO"
  | warning => "WARNING"
  | error => "ERROR"

/-- Something that a run tells. -/
inductive Event where
  | digestComputed (algorithm path digest : String)
  | oddRevision (offset revision : Nat)
  | imagePadded (path : String) (size padding : Nat)
  | signatureKept (path : String) (number : Nat) (reason : String)
  | imageLoaded (path : String) (size signatures : Nat)
  | fileWritten (path : String) (size : Nat)
  | detachedWritten (path : String) (index : Nat)
  | combinedWritten (path : String) (signatures : Nat)
  | undecodedStored (index size : Nat)
  | signatureStored (index : Nat) (subject : String)
  | signatureBuilt (algorithm subject : String) (size : Nat)
  | chainEmpty (path : String)
  | chainAdded (path : String) (certificates : Nat)
  | identityOpened (subject key provider : String)
  | engineInitialized (tool : String)
  | engineShutDown
  | alreadySigned (path : String) (signatures : Nat)
  | digestChosen (algorithm digest : String)
  | runFailed (failure : Failure)
  | failureDetails (failure : Failure)
  | detachedFinished (index : Nat) (path : String)
  | combinedFinished (signatures : Nat) (path : String)
  /-- What a provider outside this library tells. -/
  | remark (text : String)
  deriving DecidableEq, Repr

namespace Event

/-- How much the event matters. -/
def weight : Event → Weight
  | oddRevision _ _ | imagePadded _ _ _ | signatureKept _ _ _ | chainEmpty _ => .warning
  | alreadySigned _ _ | digestChosen _ _ | detachedFinished _ _ | combinedFinished _ _ => .notice
  | runFailed _ => .error
  | _ => .detail

/-- The part of the library that tells the event. -/
def teller : Event → String
  | digestComputed _ _ _ => "image_format.authenticode_digest"
  | oddRevision _ _ | imagePadded _ _ _ | signatureKept _ _ _ | imageLoaded _ _ _ =>
    "image_format.pe_image"
  | fileWritten _ _ | detachedWritten _ _ | combinedWritten _ _ => "signature_storage.output_writer"
  | undecodedStored _ _ | signatureStored _ _ => "signature_storage.signature_store"
  | signatureBuilt _ _ _ | chainEmpty _ | chainAdded _ _ => "signing.envelope_builder"
  | identityOpened _ _ _ => "signing.identity"
  | engineInitialized _ | engineShutDown => "signing.key_providers"
  | alreadySigned _ _ | digestChosen _ _ => "sbsign.runner"
  | runFailed _ | failureDetails _ | detachedFinished _ _ | combinedFinished _ _ => "sbsign.cli"
  | remark _ => ""

/-- The event in words. -/
def text : Event → String
  | digestComputed algorithm path digest => s!"{algorithm} Authenticode digest of {path}: {digest}"
  | oddRevision offset revision =>
    s!"Certificate table entry at offset {offset} has revision 0x{Hex.ofNatWide revision}"
  | imagePadded path size padding =>
    s!"Image size {size} is not 8-byte aligned; padding {path} with {padding} bytes"
  | signatureKept path number reason =>
    s!"Keeping existing signature #{number} in {path} undecoded: {reason}"
  | imageLoaded path size signatures =>
    s!"Loaded {path}: {size} bytes of image data, {signatures} existing signature(s)"
  | fileWritten path size => s!"Wrote {size} bytes to {path}"
  | detachedWritten path index => s!"Wrote detached signature #{index} to {path}"
  | combinedWritten path signatures =>
    s!"Wrote signed image with {signatures} signature(s) to {path}"
  | undecodedStored index size => s!"Stored signature #{index} (undecoded, {size} bytes)"
  | signatureStored index subject => s!"Stored signature #{index} ({subject})"
  | signatureBuilt algorithm subject size =>
    s!"Built {algorithm} signature for {subject} ({size} bytes)"
  | chainEmpty path => s!"No certificates found in intermediate certificates file {path}"
  | chainAdded path certificates =>
    s!"Added {certificates} intermediate certificate(s) from {path}"
  | identityOpened subject key provider =>
    s!"Loaded signing identity {subject} ({key} key) via {provider} provider"
  | engineInitialized tool => s!"Initialized engine {KeyProblem.engineName} ({tool})"
  | engineShutDown => s!"Engine {KeyProblem.engineName} shut down"
  | alreadySigned path signatures => s!"{path} already carries {signatures} signature(s)"
  | digestChosen algorithm digest => s!"Image digest ({algorithm}): {digest}"
  | runFailed failure => s!"[{failure.code}] {failure.message}"
  | failureDetails failure => s!"Error details: {failure.display}"
  | detachedFinished index path => s!"Detached signature #{index} written to {path}"
  | combinedFinished signatures path =>
    s!"Signed image ({signatures} signature(s)) written to {path}"
  | remark text => text

/-- The same event with the diagnosis in it reworded. -/
def reword (f : String → String) : Event → Event
  | signatureKept path number reason => signatureKept path number (f reason)
  | runFailed failure => runFailed (failure.reword f)
  | failureDetails failure => failureDetails (failure.reword f)
  | e => e

end Event

end ImageSigning
