import CertRenewal.Access.Kubeconfig
import CertRenewal.Text.Blank
import CertRenewal.Text.Integer

/-!
# Finding the server of the cluster

The command line may name a kubeconfig, a context, or both. When it names neither, the usual
kubeconfig is used, and where that does not say enough, the environment of a program inside the
cluster.
-/

namespace CertRenewal.Access

/-- What the program sees of the machine on which it runs. -/
structure Machine where
  /-- The value of a variable of the environment. -/
  lookup : String → Option String
  /-- The bytes of the file at a path, or why it cannot be read. -/
  file : String → Except String (List UInt8)

/-- Where the server is, the namespace of objects that do not name one, and the token with which
requests are sent. -/
structure Connection where
  url : String
  defaultNamespace : String
  token : Option String
  deriving DecidableEq, Repr

def readKubeconfig (machine : Machine) (path : String) : Except KubeconfigError Kubeconfig :=
  match machine.file path with
  | .error reason => .error (.unreadable path reason)
  | .ok bytes =>
    match (Text.Utf8.decode bytes).toOption.bind Kubeconfig.parse with
    | some kubeconfig => .ok kubeconfig
    | none => .error .malformed

def namedPaths (machine : Machine) : List String :=
  let value := (machine.lookup "KUBECONFIG").getD ""
  ((Text.splitOn [':'] value.toList).filter (!·.isEmpty)).map String.ofList

def usualPath (machine : Machine) : String :=
  let home := ((machine.lookup "HOME").getD "").toList
  String.ofList (Text.dropEndWhile (· == '/') home) ++ "/.kube/config"

/-- Reads the kubeconfigs that the environment names, or else the usual one. -/
def readUsual (machine : Machine) : Except KubeconfigError Kubeconfig :=
  match namedPaths machine with
  | [] => readKubeconfig machine (usualPath machine)
  | paths => paths.foldlM (fun k path => (readKubeconfig machine path).map k.merge) .empty

def namespacePath : String := "/var/run/secrets/kubernetes.io/serviceaccount/namespace"

def tokenPath : String := "/var/run/secrets/kubernetes.io/serviceaccount/token"

/-- The server as a program inside the cluster finds it. -/
def inside (machine : Machine) : Except InsideError Connection := do
  let some host := machine.lookup "KUBERNETES_SERVICE_HOST" | throw .missingVariable
  let some service := machine.lookup "KUBERNETES_SERVICE_PORT" | throw .missingVariable
  let number ← (Text.Integer.parseUnsigned 65535 service.toList).mapError fun e =>
    .invalidPort e.message
  let bytes ← (machine.file namespacePath).mapError .noNamespace
  let token := (machine.file tokenPath).toOption.map fun bytes => shown bytes
  return ⟨"https://" ++ host ++ ":" ++ toString number, shown bytes, token⟩
where
  /-- Bytes as text. -/
  shown (bytes : List UInt8) : String := String.ofList (Text.Utf8.decodeLossy bytes)

def connect (s : Kubeconfig.Selection) : Except Error Connection := do
  s.user.check.mapError .identity
  return ⟨s.url, s.defaultNamespace, s.user.token⟩

/-- Finds the server, when the command line names a kubeconfig and a context or does not. -/
def find (machine : Machine) (path? context? : Option String) : Except Error Connection := do
  match path?, context? with
  | some path, _ =>
    let kubeconfig ← (readKubeconfig machine path).mapError (.read path)
    connect (← (kubeconfig.select context?).mapError .load)
  | none, some _ =>
    let kubeconfig ← (readUsual machine).mapError .load
    connect (← (kubeconfig.select context?).mapError .load)
  | none, none =>
    match (readUsual machine).bind (·.select none) with
    | .ok selection => connect selection
    | .error outside => (inside machine).mapError (.infer · outside)

/-! ## Parts of the URL -/

/-- The scheme of a URL and what follows it. -/
def splitScheme (url : List Char) : List Char × List Char :=
  match Text.splitOn "://".toList url with
  | scheme :: rest@(_ :: _) => (scheme, Text.join "://".toList rest)
  | _ => ([], url)

def authority (url : String) : List Char :=
  (splitScheme url.toList).2.takeWhile fun c => c != '/' && c != '?' && c != '#'

/-- The path of a URL without slashes at the end. The addresses of requests lie below it. -/
def basePath (url : String) : List Char :=
  let rest := (splitScheme url.toList).2.drop (authority url).length
  Text.dropEndWhile (· == '/') (rest.takeWhile fun c => c != '?' && c != '#')

end CertRenewal.Access
