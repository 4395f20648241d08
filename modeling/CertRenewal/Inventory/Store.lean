import CertRenewal.Inventory.Client

/-!
# A cluster of secrets, pods and nodes

A store that answers the questions of the inventory. A deletion removes every object of a namespace
and name, and succeeds when there is none.
-/

namespace CertRenewal.Inventory

open CertRenewal.Cluster (Failure Metadata Node Pod Secret)

structure Store where
  secrets : List Secret
  pods : List Pod
  nodes : List Node
  deriving Repr

namespace Store

def isIn (namespace_ : String) (m : Metadata) : Bool := m.namespace_ == some namespace_

def isNamed (namespace_ name : String) (m : Metadata) : Bool :=
  isIn namespace_ m && m.name == some name

/-- Whether a query is for a secret. -/
def selects (query : SecretQuery) (secret : Secret) : Bool :=
  (query.namespace_.map (isIn · secret.metadata)).getD true &&
    (query.type.map (secret.type == some ·)).getD true

def respond : (call : Call) → Store → call.Answer × Store
  | .listSecrets query, s => (.ok (s.secrets.filter (selects query)), s)
  | .getSecret namespace_ name, s =>
    match s.secrets.find? fun secret => isNamed namespace_ name secret.metadata with
    | some secret => (.ok secret, s)
    | none => (.error ((Call.getSecret namespace_ name).failure (Failure.notFound name)), s)
  | .deleteSecret namespace_ name, s =>
    (.ok (), { s with
      secrets := s.secrets.filter fun secret => !isNamed namespace_ name secret.metadata })
  | .listPods namespace_, s => (.ok (s.pods.filter fun pod => isIn namespace_ pod.metadata), s)
  | .deletePod namespace_ name, s =>
    (.ok (), { s with pods := s.pods.filter fun pod => !isNamed namespace_ name pod.metadata })
  | .listNodes, s => (.ok s.nodes, s)

end Store

end CertRenewal.Inventory
