/-!
# Kinds of objects

A kind of objects belongs to an interface of the cluster, which has a group and a version, and its
objects are found in a collection. The core group has no name.
-/

namespace CertRenewal.Cluster

/-- A kind of objects: the group and version of its interface, its name, and the name of its
collection. -/
structure ResourceKind where
  group : String
  version : String
  kind : String
  plural : String
  deriving DecidableEq, Repr

namespace ResourceKind

def apiVersion (r : ResourceKind) : String :=
  if r.group = "" then r.version else r.group ++ "/" ++ r.version

def core (kind plural : String) : ResourceKind := ⟨"", "v1", kind, plural⟩

def node : ResourceKind := core "Node" "nodes"

def pod : ResourceKind := core "Pod" "pods"

def secret : ResourceKind := core "Secret" "secrets"

end ResourceKind

end CertRenewal.Cluster
