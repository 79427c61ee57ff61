import GatewayAgent.Certificate.Authority
import GatewayAgent.Certificate.Fingerprint
import GatewayAgent.Certificate.Paths

/-!
# Bootstrap

Makes an authority and a certificate for a host and writes three files: the certificate of the
authority, the certificate of the host, and its private key, which only its owner may read.
Everything is made before the first file is written.

Writing is a list of steps on a file system, one after the other up to the first failure. A step
fails where the file system refuses it, and it can also break on the way, as on a disk that is full
(`StepFault`); then it leaves behind what it has done so far. `InstallStep.states` are all states
that the file system goes through.
-/

namespace GatewayAgent

/-- The permissions of a file that everyone may read. -/
def publicMode : Nat := 0o644

/-- The permissions of a file that only its owner may read. -/
def privateMode : Nat := 0o600

/-- One step of writing a file. -/
inductive InstallStep where
  /-- Makes the directory of the file. -/
  | makeDirectory (path : String)
  /-- Opens the file; what it held is gone. -/
  | openFile (path : String) (mode : Nat)
  /-- Writes the content. -/
  | fill (path : String) (content : Bytes)
  /-- Sets the permissions, which an old file had kept. -/
  | restrict (path : String) (mode : Nat)
  deriving DecidableEq, Repr

/-- A step that breaks on the way, with the cause. -/
structure StepFault where
  /-- How far the step gets. -/
  progress : Nat := 0
  cause : SystemError
  deriving DecidableEq, Repr

/-- The steps of a run that break, by their number. -/
def StepFaults := Nat → Option StepFault

namespace StepFaults

/-- No step breaks. -/
def none : StepFaults := fun _ => Option.none

/-- The steps that break behind the first `n`. -/
def after (faults : StepFaults) (n : Nat) : StepFaults := fun i => faults (n + i)

end StepFaults

namespace InstallStep

/-- What a step that does not break leaves of the file system, and whether it was refused. -/
def attempt (fs : FileSystem) : InstallStep → FileSystem × Except CertificateError Unit
  | makeDirectory path =>
    match fs.makeDirectoryPath path with
    | (fs, .ok ()) => (fs, .ok ())
    | (fs, .error e) => (fs, .error (.directory path e))
  | openFile path mode =>
    match fs.openTruncated path mode with
    | .ok (fs, _) => (fs, .ok ())
    | .error e => (fs, .error (.write path e))
  | fill path content =>
    match fs.locate path with
    | .ok place => (fs.setContent place content, .ok ())
    | .error e => (fs, .error (.write path e))
  | restrict path mode =>
    match fs.chmod path mode with
    | .ok fs => (fs, .ok ())
    | .error e => (fs, .error (.write path e))

/-- What a step that breaks leaves of the file system, and its error. Of the directories that it
makes some can be there, and of the content that it writes some octets, but not all. -/
def breakOff (fs : FileSystem) (fault : StepFault) : InstallStep → FileSystem × CertificateError
  | makeDirectory path =>
    match Path.above? (fault.progress + 1) path with
    | some above => ((fs.makeDirectoryPath above).1, .directory path fault.cause)
    | none => (fs, .directory path fault.cause)
  | openFile path _ => (fs, .write path fault.cause)
  | fill path content =>
    match fs.locate path with
    | .ok place =>
      (fs.setContent place (content.dropLast.take fault.progress), .write path fault.cause)
    | .error e => (fs, .write path e)
  | restrict path _ => (fs, .write path fault.cause)

/-- What a step leaves of the file system, and whether it failed. -/
def run (fs : FileSystem) (fault : Option StepFault) (s : InstallStep) :
    FileSystem × Except CertificateError Unit :=
  match fault with
  | none => s.attempt fs
  | some fault => (s.breakOff fs fault).map id .error

/-- The steps that write one file. -/
def forFile (path content : String) (mode : Nat) : List InstallStep :=
  (((Path.parent? path).filter (· ≠ "")).toList.map makeDirectory) ++
    [openFile path mode, fill path (Text.encode content), restrict path mode]

/-- Takes steps one after the other up to the first failure. -/
def runAll (faults : StepFaults) :
    List InstallStep → FileSystem → FileSystem × Except CertificateError Unit
  | [], fs => (fs, .ok ())
  | s :: rest, fs =>
    match s.run fs (faults 0) with
    | (fs, .ok ()) => runAll (faults.after 1) rest fs
    | (fs, .error e) => (fs, .error e)

/-- The states of the file system behind each of the steps up to the first failure. -/
def states (faults : StepFaults) : List InstallStep → FileSystem → List FileSystem
  | [], _ => []
  | s :: rest, fs =>
    match s.run fs (faults 0) with
    | (fs, .ok ()) => fs :: states (faults.after 1) rest fs
    | (fs, .error _) => [fs]

end InstallStep

/-- What was made: where it is, how to know it again, and its text. -/
structure Material where
  paths : TlsPaths
  caFingerprint : String
  certFingerprint : String
  /-- The first second at which both certificates are valid. -/
  validFrom : Int
  /-- The last second at which both certificates are valid. -/
  validUntil : Int
  /-- The subject of the host's certificate. -/
  subject : String
  caText : String
  certText : String
  keyText : String
  deriving DecidableEq, Repr

namespace Material

/-- Makes an authority and a certificate for a host. -/
def mint (paths : TlsPaths) (hostname : String) (now : Instant) : Minting Material := do
  let authority ← Authority.new hostname now
  let issued ← authority.issue hostname
  match Certificate.read? issued.certificate with
  | none => Minting.fail (.parseError .leaf)
  | some leaf =>
    pure
      { paths
        caFingerprint := fingerprint authority.certificate
        certFingerprint := fingerprint issued.certificate
        validFrom := authority.notBefore
        validUntil := authority.notAfter
        subject := leaf.subject.text
        caText := armour authority.certificate
        certText := armour issued.certificate
        keyText := Pem.write issued.key }

/-- The steps that write the three files, the private key last. -/
def installSteps (m : Material) : List InstallStep :=
  InstallStep.forFile m.paths.ca m.caText publicMode ++
    InstallStep.forFile m.paths.cert m.certText publicMode ++
      InstallStep.forFile m.paths.key m.keyText privateMode

/-- What may be shown of the material: everything but the texts, one of which is the key. -/
def summary (m : Material) : String :=
  "paths: " ++ ", ".intercalate m.paths.toList ++ "; CA fingerprint: " ++ m.caFingerprint ++
    "; certificate fingerprint: " ++ m.certFingerprint ++ "; valid from: " ++
    toString m.validFrom ++ "; valid until: " ++ toString m.validUntil ++ "; subject: " ++ m.subject

end Material

/-- Makes certificates for a host and writes them to three files. -/
def bootstrap (paths : TlsPaths) (hostname : String) (now : Instant)
    (entropy : Crypto.Entropy) (fs : FileSystem) (faults : StepFaults := StepFaults.none) :
    FileSystem × Except CertificateError Material :=
  match (Material.mint paths hostname now).run entropy with
  | .error e => (fs, .error e)
  | .ok (m, _) =>
    match InstallStep.runAll faults m.installSteps fs with
    | (fs, .ok ()) => (fs, .ok m)
    | (fs, .error e) => (fs, .error e)

end GatewayAgent
