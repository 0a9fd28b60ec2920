import ImageSigning.Main
import ImageSigning.Proofs.Run
import ImageSigning.Proofs.Der.Order
import ImageSigning.Proofs.Signature.RoundTrip
import ImageSigning.Proofs.Signature.Verification
import ImageSigning.Proofs.Signature.Document
import ImageSigning.Proofs.Bytes
import ImageSigning.Proofs.CertificateTable
import ImageSigning.Proofs.Image.Headers
import ImageSigning.Proofs.Image.Writing
import ImageSigning.Proofs.Image.Loading
import ImageSigning.Proofs.Signature.Extent
import ImageSigning.Proofs.Image.Entries
import ImageSigning.Proofs.Image.Reload
import ImageSigning.Proofs.FileSystem
import ImageSigning.Proofs.Signing.Steps
import ImageSigning.Proofs.Signing.Runs
import ImageSigning.Proofs.Image.Resigning
import ImageSigning.Proofs.Signature.Refusal
import ImageSigning.Proofs.Image.Acceptance
import ImageSigning.Proofs.Replacing
import ImageSigning.Proofs.Frame
import ImageSigning.Proofs.Session
import ImageSigning.Proofs.Writing
import ImageSigning.Proofs.Signing.Atomicity
import ImageSigning.Proofs.Defects
import ImageSigning.Proofs.Image.Packing
import ImageSigning.Proofs.Identity
import ImageSigning.Proofs.Signature.Defects
import ImageSigning.Proofs.Configuration
import ImageSigning.Proofs.Signing.Reporting
import ImageSigning.Proofs.Token.Routing
import ImageSigning.Proofs.Token.Answers
import ImageSigning.Proofs.Lifecycle
import ImageSigning.Proofs.Signature.Attributes
import ImageSigning.Proofs.Signature.Reencoding
import ImageSigning.Proofs.Signature.Augmentation
import ImageSigning.Proofs.Signing.Misconfiguration
import ImageSigning.Proofs.Image.Records
import ImageSigning.Proofs.Image.Checksum
import ImageSigning.Proofs.Image.Layout
import ImageSigning.Proofs.Image.Rewriting
import ImageSigning.Proofs.Image.Attribution
import ImageSigning.Proofs.Bundle
import ImageSigning.Proofs.CertificateTable.Grammar
import ImageSigning.Proofs.Image.Splitting
import ImageSigning.Proofs.Image.Coverage
import ImageSigning.Proofs.FileSystem.Interruption
import ImageSigning.Proofs.Image.Outputs
import ImageSigning.Proofs.Signature.Chains
import ImageSigning.Proofs.Bundle.Refusal
import ImageSigning.Proofs.Signature.Binding
import ImageSigning.Proofs.Signature.Leading
import ImageSigning.Proofs.Store
import ImageSigning.Proofs.Precedence
import ImageSigning.Proofs.KeyReference
import ImageSigning.Proofs.Certificate.Encodings
import ImageSigning.Proofs.Profile
import ImageSigning.Proofs.Token.Settings
import ImageSigning.Proofs.Der.Header
import ImageSigning.Proofs.Der.Sorting
import ImageSigning.Proofs.Signing.Secrecy
import ImageSigning.Proofs.Signing.Query
