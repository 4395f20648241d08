import CertRenewal.Access.Connection
import CertRenewal.Logging
import CertRenewal.Program.Command

/-!
# The program

The program reads its command line and the settings of its log, finds the server of the cluster, and
runs a command. `run` gives it as a dialogue with the server that ends with what the program writes
and its status. The standard output carries results and help only; everything else goes to the
standard error.
-/

namespace CertRenewal.Program

open CertRenewal.CommandLine (Arguments Command Stop)

/-- What the program sees of the machine on which it runs, and the time. -/
structure Environment where
  machine : Access.Machine
  now : Instant

/-- What the program writes, and its status. -/
structure Exit where
  status : Nat
  output : List UInt8
  error : List UInt8
  deriving DecidableEq, Repr

def Exit.failure (message : String) : Exit := ⟨1, [], line message⟩

/-- The end of a program that has not been asked to run a command. -/
def Exit.ofStop : Stop → Exit
  | .help text => ⟨0, line text, []⟩
  | .usage error => .failure (error.message ++ "\nRun renewctl --help for more information.")

/-- The end of a program that has run a command. -/
def Exit.ofResult : Except CommandError (List UInt8) → Exit
  | .ok output => ⟨0, output, []⟩
  | .error error => .failure error.message

structure Task where
  connection : Access.Connection
  command : Command
  deriving DecidableEq, Repr

def logSettings (machine : Access.Machine) : Except Logging.Error Logging.Settings :=
  Logging.Settings.ofValues (machine.lookup Logging.formatVariable)
    (machine.lookup Logging.colourVariable)

def loggingMessage (e : Logging.Error) : String :=
  "Error configuring telemetry: '" ++ e.message ++ "'"

/-- Finds out what is to be done. Nothing has been sent when there is nothing to do. -/
def prepare (environment : Environment) (words : List String) : Except Exit Task := do
  let arguments ← (Arguments.parse words).mapError .ofStop
  let _ ← (logSettings environment.machine).mapError fun e => .failure (loggingMessage e)
  let connection ←
    (Access.find environment.machine arguments.kubeconfig arguments.context).mapError fun e =>
      .failure e.message
  return ⟨connection, arguments.command⟩

def perform (environment : Environment) (task : Task) : Server.Dialogue Exit := do
  let setting : Setting := ⟨task.connection.defaultNamespace, environment.now⟩
  return .ofResult (← runCommand setting task.command)

def run (environment : Environment) (words : List String) : Server.Dialogue Exit :=
  match prepare environment words with
  | .ok task => perform environment task
  | .error exit => .done exit

end CertRenewal.Program
