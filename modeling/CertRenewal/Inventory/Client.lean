import CertRenewal.Cluster.Failure
import CertRenewal.Cluster.Node
import CertRenewal.Cluster.Pod
import CertRenewal.Cluster.Secret
import CertRenewal.Dialogue

/-!
# What the inventory asks of the cluster

Secrets, pods and nodes are listed, and secrets and pods deleted.
-/

namespace CertRenewal.Inventory

/-- Which secrets to list: those of one namespace or of all, and of one type or of any. -/
structure SecretQuery where
  namespace_ : Option String
  type : Option String
  deriving DecidableEq, Repr

namespace SecretQuery

def all : SecretQuery := ⟨none, none⟩

/-- The condition on the fields of a secret, if there is one. -/
def fieldSelector (q : SecretQuery) : Option String := q.type.map ("type=" ++ ·)

/-- Where the secrets are, for messages. -/
def scope (q : SecretQuery) : String :=
  match q.namespace_ with
  | some namespace_ => "namespace '" ++ namespace_ ++ "'"
  | none => "all namespaces"

end SecretQuery

/-- Why a question of the inventory has no answer. -/
inductive Error where
  | listSecrets (scope : String) (cause : Cluster.Failure)
  | getSecret (namespace_ name : String) (cause : Cluster.Failure)
  | deleteSecret (namespace_ name : String) (cause : Cluster.Failure)
  | listPods (namespace_ : String) (cause : Cluster.Failure)
  | deletePod (namespace_ name : String) (cause : Cluster.Failure)
  | listNodes (cause : Cluster.Failure)
  deriving DecidableEq, Repr

def objectMessage (action kind namespace_ name : String) (cause : Cluster.Failure) : String :=
  "Unable to " ++ action ++ " " ++ kind ++ " '" ++ namespace_ ++ "/" ++ name ++ "': '" ++
    cause.message ++ "'"

def Error.message : Error → String
  | .listSecrets scope cause =>
    "Unable to list Secrets in '" ++ scope ++ "': '" ++ cause.message ++ "'"
  | .getSecret namespace_ name cause => objectMessage "fetch" "Secret" namespace_ name cause
  | .deleteSecret namespace_ name cause => objectMessage "delete" "Secret" namespace_ name cause
  | .listPods namespace_ cause =>
    "Unable to list Pods in '" ++ namespace_ ++ "': '" ++ cause.message ++ "'"
  | .deletePod namespace_ name cause => objectMessage "delete" "Pod" namespace_ name cause
  | .listNodes cause => "Unable to list Nodes: '" ++ cause.message ++ "'"

inductive Call where
  | listSecrets (query : SecretQuery)
  | getSecret (namespace_ name : String)
  | deleteSecret (namespace_ name : String)
  | listPods (namespace_ : String)
  | deletePod (namespace_ name : String)
  | listNodes
  deriving DecidableEq, Repr

def Call.Answer : Call → Type
  | .listSecrets _ => Except Error (List Cluster.Secret)
  | .getSecret _ _ => Except Error Cluster.Secret
  | .deleteSecret _ _ => Except Error Unit
  | .listPods _ => Except Error (List Cluster.Pod)
  | .deletePod _ _ => Except Error Unit
  | .listNodes => Except Error (List Cluster.Node)

def Call.failure : Call → Cluster.Failure → Error
  | .listSecrets query => .listSecrets query.scope
  | .getSecret namespace_ name => .getSecret namespace_ name
  | .deleteSecret namespace_ name => .deleteSecret namespace_ name
  | .listPods namespace_ => .listPods namespace_
  | .deletePod namespace_ name => .deletePod namespace_ name
  | .listNodes => .listNodes

def Call.fail (error : Error) : (call : Call) → call.Answer
  | .listSecrets _ | .getSecret _ _ | .deleteSecret _ _ | .listPods _ | .deletePod _ _
  | .listNodes => .error error

abbrev Dialogue := CertRenewal.Dialogue Call Call.Answer

def listSecrets (query : SecretQuery) : Dialogue (Except Error (List Cluster.Secret)) :=
  .call (Call.listSecrets query)

def getSecret (namespace_ name : String) : Dialogue (Except Error Cluster.Secret) :=
  .call (Call.getSecret namespace_ name)

def deleteSecret (namespace_ name : String) : Dialogue (Except Error Unit) :=
  .call (Call.deleteSecret namespace_ name)

def listPods (namespace_ : String) : Dialogue (Except Error (List Cluster.Pod)) :=
  .call (Call.listPods namespace_)

def deletePod (namespace_ name : String) : Dialogue (Except Error Unit) :=
  .call (Call.deletePod namespace_ name)

def listNodes : Dialogue (Except Error (List Cluster.Node)) := .call Call.listNodes

end CertRenewal.Inventory
