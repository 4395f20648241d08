import CertRenewal.Cluster.Pod
import CertRenewal.Maintenance.Node

/-!
# Maintenance pods

The pod that renews the certificates of one control-plane node. It is bound to that node by name, so
that it can run nowhere else, and it is never restarted: a renewal that failed needs a person and
not another attempt.
-/

namespace CertRenewal.Maintenance

/-- The image of the pod and the program in it. -/
structure Image where
  image : String
  binary : String
  deriving DecidableEq, Repr

/-- The image and program to be used when none are given. -/
def Image.standard : Image := ⟨"quay.io/airshipit/cert-renew:latest", "/usr/local/bin/cert-renew"⟩

def podNamespace : String := "kube-system"

def componentName : String := "cert-renew"

def certificatesPath : String := "/etc/kubernetes/pki"

def runtimeSocketPath : String := "/run/containerd/containerd.sock"

/-- What the names of the pods for a node start with. -/
def podNameStart (node : String) : String := componentName ++ "-" ++ node ++ "-"

def podMetadata (node : String) : Cluster.Metadata :=
  { Cluster.Metadata.empty with
    generateName := some (podNameStart node)
    namespace_ := some podNamespace
    labels := some
      [("app.kubernetes.io/component", componentName),
        ("app.kubernetes.io/managed-by", "renewctl"), ("app.kubernetes.io/name", componentName)] }

def record (fields : List (String × String)) : Json :=
  .object (fields.map fun (key, value) => (key, .string value))

/-- A toleration of a taint that keeps other pods away from control-plane nodes. -/
def toleration (taint : String) : Json :=
  record [("key", taint), ("operator", "Exists"), ("effect", "NoSchedule")]

/-- A volume that is a path of the node. -/
def hostVolume (name path type : String) : Json :=
  .object [("name", .string name), ("hostPath", record [("path", path), ("type", type)])]

def podContainer (threshold : String) (image : Image) : Json :=
  .object
    [("name", .string componentName), ("image", .string image.image),
      ("command", .array [.string image.binary]),
      ("args", .array [.string "--expiration-threshold", .string threshold]),
      ("securityContext",
        .object [("capabilities", .object [("add", .array [.string "SYS_PTRACE"])])]),
      ("volumeMounts",
        .array
          [record [("name", "pki"), ("mountPath", certificatesPath)],
            record [("name", "container-runtime-socket"), ("mountPath", runtimeSocketPath)]])]

def podSpec (node threshold : String) (image : Image) : Json :=
  .object
    [("nodeName", .string node), ("hostPID", .bool true), ("hostNetwork", .bool true),
      ("restartPolicy", .string "Never"),
      ("tolerations",
        .array [toleration roleLabel, toleration "node-role.kubernetes.io/master"]),
      ("containers", .array [podContainer threshold image]),
      ("volumes",
        .array
          [hostVolume "pki" certificatesPath "Directory",
            hostVolume "container-runtime-socket" runtimeSocketPath "Socket"])]

/-- The pod that renews the certificates of a node which expire within the threshold. -/
def pod (node : ControlPlaneNode) (threshold : String) (image : Image) : Cluster.Pod :=
  ⟨podMetadata node.name, some (podSpec node.name threshold image), none⟩

end CertRenewal.Maintenance
