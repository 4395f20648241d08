import CertRenewal.CommandLine.Arguments
import CertRenewal.Expiry.Check
import CertRenewal.Report.Write
import CertRenewal.Server.Clients
import CertRenewal.Tokens.Rotation

/-!
# Running a command

A command sends requests to the server of the cluster and ends with the text for the standard output
or with an error. Nothing is written before the last request has been answered, so that a command
that fails writes nothing.
-/

namespace CertRenewal.Program

open CertRenewal.CommandLine (CheckExpiration Command RenewCerts ResetToken)

inductive CommandError where
  | renewal (cause : Renewal.Error)
  | threshold (cause : Expiry.InvalidThreshold)
  | expiry (cause : Expiry.Error)
  | tokens (cause : Tokens.Error)
  deriving Repr

def CommandError.message : CommandError → String
  | .renewal cause => cause.message
  | .threshold cause => cause.message
  | .expiry cause => cause.message
  | .tokens cause => cause.message

/-- The bytes of a line. -/
def line (s : String) : List UInt8 := Text.Utf8.encode (s.toList ++ ['\n'])

/-- Where the program runs: the namespace of objects that do not name one, and the time. -/
structure Setting where
  defaultNamespace : String
  now : Instant
  deriving DecidableEq, Repr

def imageOf (options : RenewCerts) : Maintenance.Image :=
  { Maintenance.Image.standard with
    image := options.image.getD Maintenance.Image.standard.image }

/-- Renews certificates, and says what to do next. -/
def renewCerts (setting : Setting) (options : RenewCerts) :
    Server.Dialogue (Except CommandError (List UInt8)) := do
  let outcome ←
    (Renewal.renew .standard (imageOf options) (.ofFlag options.renewInPlace)
      options.expirationThreshold).interpret (Server.renewal setting.defaultNamespace)
  match outcome with
  | .ok outcome => return .ok (line outcome.banner)
  | .error cause => return .error (.renewal cause)

def checkExpiration (setting : Setting) (options : CheckExpiration) :
    Server.Dialogue (Except CommandError (List UInt8)) :=
  match Expiry.Threshold.parse options.duration with
  | .error cause => .done (.error (.threshold ⟨options.duration, cause⟩))
  | .ok threshold => do
    match ← (Expiry.check ⟨threshold, setting.now⟩).interpret Server.inventory with
    | .ok report => return .ok (report.render options.output)
    | .error cause => return .error (.expiry cause)

/-- The lines about a token that has been rotated. -/
def tokenLines (token : Tokens.RotatedToken) : List UInt8 :=
  line ("Rotated token - " ++ token.secret) ++
    token.pods.flatMap fun pod => line ("Deleted pod - " ++ pod)

/-- Rotates tokens, and says which, and which pods have been deleted. -/
def resetToken (options : ResetToken) :
    Server.Dialogue (Except CommandError (List UInt8)) := do
  match ← (Tokens.rotate options.namespace_ options.secretName).interpret Server.inventory with
  | .ok tokens => return .ok (tokens.flatMap tokenLines ++ line "Successfully rotated token")
  | .error cause => return .error (.tokens cause)

def runCommand (setting : Setting) :
    Command → Server.Dialogue (Except CommandError (List UInt8))
  | .renewCerts options => renewCerts setting options
  | .checkExpiration options => checkExpiration setting options
  | .resetToken options => resetToken options

end CertRenewal.Program
