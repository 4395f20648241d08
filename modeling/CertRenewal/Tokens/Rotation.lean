import CertRenewal.Inventory.Client

/-!
# Rotating tokens of service accounts

A token is rotated by deleting its secret, whereupon the cluster issues another one, and then the
pods that mount it, so that they start again with the new one.
-/

namespace CertRenewal.Tokens

def tokenType : String := "kubernetes.io/service-account-token"

inductive Error where
  | inventory (cause : Inventory.Error)
  | noTokens (namespace_ : String)
  | notToken (name : String)
  deriving DecidableEq, Repr

def Error.message : Error → String
  | .inventory cause => "Unable to read cluster state: '" ++ cause.message ++ "'"
  | .noTokens namespace_ => "No Service Account tokens found in namespace '" ++ namespace_ ++ "'."
  | .notToken name => name ++ " is not a Service Account Token"

/-- A token that has been rotated, and the pods that have been deleted for it. -/
structure RotatedToken where
  secret : String
  pods : List String
  deriving DecidableEq, Repr

def RotatedToken.toJson (t : RotatedToken) : Json :=
  .object
    [("secretName", .string t.secret), ("deletedPods", .array (t.pods.map .string))]

/-- The names of the secrets to be rotated: the given one, if it holds a token, or all tokens of the
namespace. -/
def tokenNames (namespace_ : String) (name? : Option String) :
    Inventory.Dialogue (Except Error (List String)) := do
  match name? with
  | some name =>
    match ← Inventory.getSecret namespace_ name with
    | .error cause => return .error (.inventory cause)
    | .ok secret =>
      return if secret.type = some tokenType then .ok [name] else .error (.notToken name)
  | none =>
    match ← Inventory.listSecrets ⟨some namespace_, some tokenType⟩ with
    | .error cause => return .error (.inventory cause)
    | .ok [] => return .error (.noTokens namespace_)
    | .ok secrets => return .ok (secrets.map (·.metadata.anyName))

/-- Deletes pods, one after the other, and gives their names. -/
def deletePods (namespace_ : String) : List String → Inventory.Dialogue (Except Error (List String))
  | [] => .done (.ok [])
  | name :: rest => do
    match ← Inventory.deletePod namespace_ name with
    | .error cause => return .error (.inventory cause)
    | .ok _ =>
      (deletePods namespace_ rest).andThen fun names => .done (.ok (name :: names))

/-- The names of the pods that mount a secret: those with a volume of its name. -/
def mounting (secret : String) (pods : List Cluster.Pod) : List String :=
  (pods.filter fun pod => pod.volumeNames.contains secret).map (·.metadata.anyName)

def rotateOne (namespace_ secret : String) :
    Inventory.Dialogue (Except Error RotatedToken) := do
  match ← Inventory.deleteSecret namespace_ secret with
  | .error cause => return .error (.inventory cause)
  | .ok _ =>
    match ← Inventory.listPods namespace_ with
    | .error cause => return .error (.inventory cause)
    | .ok pods =>
      (deletePods namespace_ (mounting secret pods)).andThen fun names =>
        .done (.ok ⟨secret, names⟩)

def rotateAll (namespace_ : String) :
    List String → Inventory.Dialogue (Except Error (List RotatedToken))
  | [] => .done (.ok [])
  | name :: rest =>
    (rotateOne namespace_ name).andThen fun token =>
      (rotateAll namespace_ rest).andThen fun tokens => .done (.ok (token :: tokens))

/-- Rotates the token of a name, or all tokens of a namespace. -/
def rotate (namespace_ : String) (name? : Option String) :
    Inventory.Dialogue (Except Error (List RotatedToken)) :=
  (tokenNames namespace_ name?).andThen (rotateAll namespace_)

end CertRenewal.Tokens
