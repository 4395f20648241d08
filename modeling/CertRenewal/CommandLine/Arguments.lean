import CertRenewal.CommandLine.Help
import CertRenewal.CommandLine.Words
import CertRenewal.Report.Format

/-!
# The command line of the program

`Arguments.parse` reads the words behind the name of the program.
-/

namespace CertRenewal.CommandLine

/-- What to renew and how. -/
structure RenewCerts where
  expirationThreshold : String
  renewInPlace : Bool
  image : Option String
  deriving DecidableEq, Repr

/-- Which expiry dates to report and how. -/
structure CheckExpiration where
  duration : String
  output : Report.Format
  deriving DecidableEq, Repr

/-- Which tokens to rotate. -/
structure ResetToken where
  namespace_ : String
  secretName : Option String
  deriving DecidableEq, Repr

inductive Command where
  | renewCerts (options : RenewCerts)
  | checkExpiration (options : CheckExpiration)
  | resetToken (options : ResetToken)
  deriving DecidableEq, Repr

structure Arguments where
  kubeconfig : Option String
  context : Option String
  command : Command
  deriving DecidableEq, Repr

/-! ## The commands -/

/-- A level below which there are no commands. -/
def leaf (help : String) (setter : String → Option (String → σ → Except ValueError σ)) :
    Level σ Empty := ⟨help, setter, fun _ => none⟩

def readBool : String → Except ValueError Bool
  | "true" => .ok true
  | "false" => .ok false
  | _ => .error .notBoolean

def readFormat (name : String) : Except ValueError Report.Format :=
  match Report.Format.ofName? name with
  | some format => .ok format
  | none => .error (.unknownFormat (Report.Format.Unknown.mk name).message)

namespace RenewCerts

structure Given where
  expirationThreshold : Option String
  renewInPlace : Option Bool
  image : Option String
  deriving DecidableEq, Repr

def setter : String → Option (String → Given → Except ValueError Given)
  | "--expiration-threshold" => some fun value g => do
    return { g with expirationThreshold := ← setOnce g.expirationThreshold value }
  | "--renew-in-place" => some fun value g => do
    if g.renewInPlace.isSome then throw .duplicate
    return { g with renewInPlace := some (← readBool value) }
  | "--image" => some fun value g => do return { g with image := ← setOnce g.image value }
  | _ => none

/-- The options with the defaults of those that are not given. -/
def ofGiven (g : Given) : RenewCerts :=
  ⟨g.expirationThreshold.getD "24h", g.renewInPlace.getD true, g.image⟩

/-- Reads the words behind the command. -/
def parse (words : List String) : Except Stop RenewCerts := do
  let (given, _) ← (leaf Help.renewCerts setter).read ⟨none, none, none⟩ words
  return ofGiven given

end RenewCerts

namespace CheckExpiration

structure Given where
  duration : Option String
  output : Option Report.Format
  deriving DecidableEq, Repr

def setter : String → Option (String → Given → Except ValueError Given)
  | "--duration" => some fun value g => do
    return { g with duration := ← setOnce g.duration value }
  | "--output" => some fun value g => do
    if g.output.isSome then throw .duplicate
    return { g with output := some (← readFormat value) }
  | _ => none

/-- The options with the defaults of those that are not given. -/
def ofGiven (g : Given) : CheckExpiration := ⟨g.duration.getD "30", g.output.getD .table⟩

/-- Reads the words behind the command. -/
def parse (words : List String) : Except Stop CheckExpiration := do
  let (given, _) ← (leaf Help.checkExpiration setter).read ⟨none, none⟩ words
  return ofGiven given

end CheckExpiration

namespace ResetToken

structure Given where
  namespace_ : Option String
  secretName : Option String
  deriving DecidableEq, Repr

def setter : String → Option (String → Given → Except ValueError Given)
  | "--namespace" => some fun value g => do
    return { g with namespace_ := ← setOnce g.namespace_ value }
  | "--secret-name" => some fun value g => do
    return { g with secretName := ← setOnce g.secretName value }
  | _ => none

/-- Reads the words behind the command. The namespace must be given. -/
def parse (words : List String) : Except Stop ResetToken := do
  let (given, _) ← (leaf Help.resetToken setter).read ⟨none, none⟩ words
  match given.namespace_ with
  | some namespace_ => return ⟨namespace_, given.secretName⟩
  | none => throw (.usage (.missingOptions ["--namespace"]))

end ResetToken

def commandNames : List String := ["renew-certs", "check-expiration", "reset-sa-token"]

def readCommand : String → Option (List String → Except Stop Command)
  | "renew-certs" => some fun words => (RenewCerts.parse words).map .renewCerts
  | "check-expiration" => some fun words => (CheckExpiration.parse words).map .checkExpiration
  | "reset-sa-token" => some fun words => (ResetToken.parse words).map .resetToken
  | _ => none

/-! ## The program -/

namespace Arguments

structure Given where
  kubeconfig : Option String
  context : Option String
  deriving DecidableEq, Repr

def setter : String → Option (String → Given → Except ValueError Given)
  | "--kubeconfig" => some fun value g => do
    return { g with kubeconfig := ← setOnce g.kubeconfig value }
  | "--context" => some fun value g => do return { g with context := ← setOnce g.context value }
  | _ => none

def level : Level Given Command := ⟨Help.program, setter, readCommand⟩

/-- Reads the words behind the name of the program. -/
def parse (words : List String) : Except Stop Arguments := do
  let (given, command) ← level.read ⟨none, none⟩ words
  match command with
  | some command => return ⟨given.kubeconfig, given.context, command⟩
  | none => throw (.usage (.missingCommand commandNames))

end Arguments

end CertRenewal.CommandLine
