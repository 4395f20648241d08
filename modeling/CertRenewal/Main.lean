import CertRenewal.Program.Run
import CertRenewal.Server.Message
import Std.Async.DNS
import Std.Async.TCP
import Std.Time.DateTime.Timestamp

/-!
# The executable

Reads the environment and files, carries requests to the server and back, waits where the program
waits, and writes what it ends with. All decisions are in `Program.run`.
-/

namespace CertRenewal.Executable

/-- The variables of the environment that the program may look at. -/
def watchedVariables : List String :=
  [Logging.formatVariable, Logging.colourVariable, "KUBECONFIG", "HOME",
    "KUBERNETES_SERVICE_HOST", "KUBERNETES_SERVICE_PORT"]

def readBytes (path : String) : IO (Except String (List UInt8)) := do
  try
    return .ok (← IO.FS.readBinFile path).toList
  catch
    | .noFileOrDirectory .. => return .error "No such file or directory (os error 2)"
    | .permissionDenied .. => return .error "Permission denied (os error 13)"
    | e => return .error (toString e)

/-- The paths that the program may read for a command line. -/
def watchedPaths (machine : Access.Machine) (words : List String) : List String :=
  let named :=
    match CommandLine.Arguments.parse words with
    | .ok arguments => arguments.kubeconfig.toList
    | .error _ => []
  named ++ Access.namedPaths machine ++
    [Access.usualPath machine, Access.namespacePath, Access.tokenPath]

def lookAround (words : List String) : IO Program.Environment := do
  let values ← watchedVariables.filterMapM fun name => do
    return (← IO.getEnv name).map fun value => (name, value)
  let machine : Access.Machine := ⟨(List.lookup · values), fun _ => .error ""⟩
  let files ← (watchedPaths machine words).mapM fun path => do
    return (path, ← readBytes path)
  let file (path : String) : Except String (List UInt8) :=
    (files.lookup path).getD (.error "No such file or directory (os error 2)")
  let now ← Std.Time.Timestamp.now
  return ⟨⟨(List.lookup · values), file⟩, .ofNanos now.toNanosecondsSinceUnixEpoch.val⟩

def addressOf (authority : List Char) : IO Std.Net.SocketAddress := do
  let (host, service) := ((Text.cut ':' authority).getD (authority, "80".toList))
  let found ← (Std.Async.DNS.getAddrInfo (String.ofList host) "").block
  let number := (Text.natOfDigits service).toUInt16
  match found.toList.find? fun a => a.family == .ipv4, found.toList.head? with
  | some (.v4 addr), _ | none, some (.v4 addr) => return .v4 ⟨addr, number⟩
  | some (.v6 addr), _ | none, some (.v6 addr) => return .v6 ⟨addr, number⟩
  | none, none => throw (IO.userError ("unknown host " ++ String.ofList host))

/-- Receives until the server closes the connection. -/
partial def receiveAll (socket : Std.Async.TCP.Socket.Client) (received : List UInt8) :
    IO (List UInt8) := do
  match ← (socket.recv? 65536).block with
  | some bytes => receiveAll socket (received ++ bytes.toList)
  | none => return received

def exchange (target : Server.Target) (request : Server.Request) : IO Server.Response := do
  let socket ← Std.Async.TCP.Socket.Client.mk
  (socket.connect (← addressOf target.host)).block
  (socket.send ⟨(request.bytes target).toArray⟩).block
  match Server.Response.ofBytes? (← receiveAll socket []) with
  | some response => return response
  | none => throw (IO.userError "the server sent no response")

def converse (target : Server.Target) : Server.Dialogue α → IO α
  | .done value => return value
  | .ask request next => do converse target (next (← exchange target request))
  | .wait milliseconds next => do
    IO.sleep milliseconds.toUInt32
    converse target next

/-- Writes what the program ends with. -/
def report (exit : Program.Exit) : IO UInt32 := do
  (← IO.getStdout).write ⟨exit.output.toArray⟩
  (← IO.getStderr).write ⟨exit.error.toArray⟩
  return exit.status.toUInt32

/-- Where the requests of a task go. Only plain connections are supported. -/
def targetOf (connection : Access.Connection) : Except String Server.Target :=
  if (Access.splitScheme connection.url.toList).1 = "http".toList then
    .ok ⟨Access.authority connection.url, Access.basePath connection.url, connection.token⟩
  else .error ("Unable to create Kubernetes client: no plain URL '" ++ connection.url ++ "'")

def start (words : List String) : IO UInt32 := do
  let environment ← lookAround words
  match Program.prepare environment words with
  | .error exit => report exit
  | .ok task =>
    match targetOf task.connection with
    | .error message => report (.failure message)
    | .ok target =>
      try report (← converse target (Program.perform environment task))
      catch e => report (.failure (toString e))

end CertRenewal.Executable

def main (words : List String) : IO UInt32 := CertRenewal.Executable.start words
