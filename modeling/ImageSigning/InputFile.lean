import ImageSigning.Certificate.Bundle
import ImageSigning.Fault
import ImageSigning.Key.Private
import ImageSigning.Text.Case

/-!
# Input files

The files that a signature is made from: the key, the certificate, and a bundle of further
certificates. Each is looked for first and read then, and what it holds is taken whole or refused with
the name of the file.
-/

namespace ImageSigning.InputFile

/-- Why the octets of an input file are not to be had. -/
inductive Obstacle where
  | problem (p : ReadProblem)
  | defect (d : Defect)
  deriving DecidableEq, Repr

/-- The octets of an input file. -/
def octets (fs : FileSystem) (role : FileRole) (path : String) : Except Obstacle Bytes :=
  match fs.leadsSomewhere path with
  | .error e => .error (.defect (.unreachable e))
  | .ok false => .error (.problem (.absent role path))
  | .ok true =>
    match fs.read path with
    | .ok b => .ok b
    | .error (.system e) => .error (.problem (.unreadable role path e))
    | .error .nullCharacter => .error (.defect .nullCharacter)

/-- An obstacle as a fault. -/
def Obstacle.fault : Obstacle → Fault
  | problem p => .failure (.reading p)
  | defect d => .defect d

/-- The private key in a file. The encoding is named in any case; every name but one means text. -/
def privateKey (fs : FileSystem) (path encoding : String) (password : Option Bytes) :
    Except Fault PrivateKey := do
  let b ← (octets fs .privateKey path).mapError Obstacle.fault
  let encoding := Text.upper encoding
  let key := if encoding = "DER" then PrivateKey.ofDer password b else PrivateKey.ofPem password b
  match key with
  | .ok key => return key
  | .error .unsupported => throw (.defect .unsupportedPrivateKey)
  | .error p => throw (.failure (.key (.keyUndecodable encoding path p.wording)))

/-- The certificate in a file. -/
def certificate (fs : FileSystem) (path : String) : Except Fault Certificate := do
  let b ← (octets fs .certificate path).mapError Obstacle.fault
  match Certificate.ofFile b with
  | .ok c => return c
  | .error (.certificate .unknownVersion) => throw (.defect (.certificate .unknownVersion))
  | .error p => throw (.failure (.key (.certificateUndecodable path p.wording)))

/-- The certificates in a bundle. -/
def bundle (fs : FileSystem) (path : String) : Except Fault (List Certificate) := do
  let b ← (octets fs .chain path).mapError fun
    | .problem p => .failure (.chain path (.unreadable p))
    | .defect d => .defect d
  match Bundle.read b with
  | .ok cs => return cs
  | .error .unknownVersion => throw (.defect (.certificate .unknownVersion))
  | .error (.problem p) => throw (.failure (.chain path p))

end ImageSigning.InputFile
