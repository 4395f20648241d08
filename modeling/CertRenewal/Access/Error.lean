import CertRenewal.Text.Quoted

/-!
# Why the server of the cluster cannot be reached

Where the server is and who asks is said by kubeconfig files, or by the environment when the program
runs inside the cluster.
-/

namespace CertRenewal.Access

/-- Why a kubeconfig does not say where the server is. -/
inductive KubeconfigError where
  | unreadable (path reason : String)
  | malformed
  | noContext
  | unknownContext (name : String)
  | unknownCluster (name : String)
  | unknownUser (name : String)
  | missingUrl
  | invalidUrl (reason : String)
  deriving DecidableEq, Repr

def KubeconfigError.message : KubeconfigError → String
  | .unreadable path reason =>
    "failed to read kubeconfig from '" ++ Text.quotePath path ++ "': " ++ reason
  | .malformed => "failed to parse kubeconfig YAML: <yaml>"
  | .noContext => "failed to determine current context"
  | .unknownContext name => "failed to load current context: " ++ name
  | .unknownCluster name => "failed to load the cluster of context: " ++ name
  | .unknownUser name => "failed to find named user: " ++ name
  | .missingUrl => "cluster url is missing on selected cluster"
  | .invalidUrl reason => "failed to parse cluster url: " ++ reason

/-- Why the environment does not say where the server is. -/
inductive InsideError where
  | missingVariable
  | invalidPort (reason : String)
  | noNamespace (reason : String)
  deriving DecidableEq, Repr

def InsideError.message : InsideError → String
  | .missingVariable =>
    "failed to read an incluster environment variable: environment variable not found"
  | .invalidPort reason =>
    "failed to parse a cluster port: " ++ reason
  | .noNamespace reason => "failed to read the default namespace: " ++ reason

/-- What is wrong with the certificate and key of a user. -/
inductive IdentityError where
  | noKey
  | noCertificate
  deriving DecidableEq, Repr

def IdentityError.message : IdentityError → String
  | .noKey => "identity PEM is missing a private key: the key must be PKCS8 or RSA/PKCS1"
  | .noCertificate => "identity PEM is missing certificate"

/-- Why the server cannot be reached. -/
inductive Error where
  /-- The file that the command line names cannot be read. -/
  | read (path : String) (cause : KubeconfigError)
  /-- The kubeconfig that the command line names does not say where the server is. -/
  | load (cause : KubeconfigError)
  /-- Neither the environment nor the usual kubeconfig says where the server is. -/
  | infer (inside : InsideError) (outside : KubeconfigError)
  | identity (cause : IdentityError)
  deriving DecidableEq, Repr

def Error.message : Error → String
  | .read path cause => "Unable to read kubeconfig '" ++ path ++ "': " ++ cause.message
  | .load cause => "Unable to load kubeconfig: " ++ cause.message
  | .infer inside outside =>
    "Unable to infer Kubernetes client configuration: failed to infer config: in-cluster: (" ++
      inside.message ++ "), kubeconfig: (" ++ outside.message ++ ")"
  | .identity cause =>
    "Unable to create Kubernetes client: rustls tls error: " ++ cause.message

end CertRenewal.Access
