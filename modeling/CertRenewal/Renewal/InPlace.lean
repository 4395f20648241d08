import CertRenewal.Maintenance.Client
import CertRenewal.Maintenance.Pod
import CertRenewal.Polling

/-!
# In-place renewal

A maintenance pod runs on one control-plane node after the other. The next node is not touched
before the pod on the last one has succeeded and that node is ready again, so that at most one node
at a time is down.
-/

namespace CertRenewal.Renewal.InPlace

open CertRenewal.Maintenance (ControlPlaneNode)
open CertRenewal.Polling (Check)

inductive Error where
  | listNodes (cause : Maintenance.Error)
  | noNodes
  | createPod (node : String) (cause : Maintenance.Error)
  | podWithoutName (node : String)
  | podTimeout (node namespace_ pod : String) (attempts : Nat)
  | podFailed (node namespace_ pod : String)
  | nodeUnhealthy (node : String) (attempts : Nat)
  deriving DecidableEq, Repr

/-- Where the log of a pod is found. -/
def logHint (namespace_ pod : String) : String :=
  "Inspect its logs with 'kubectl logs -n " ++ namespace_ ++ " " ++ pod ++ "'."

def podText (node namespace_ pod : String) : String :=
  "Maintenance Pod '" ++ namespace_ ++ "/" ++ pod ++ "' on Node '" ++ node ++ "'"

def Error.message : Error → String
  | .listNodes cause => "Unable to list control-plane nodes: '" ++ cause.message ++ "'"
  | .noNodes => "No control-plane nodes found with label '" ++ Maintenance.roleLabel ++ "'."
  | .createPod node cause =>
    "Unable to create maintenance Pod for Node '" ++ node ++ "': '" ++ cause.message ++ "'"
  | .podWithoutName node =>
    "Maintenance Pod created for Node '" ++ node ++ "' was returned without a name."
  | .podTimeout node namespace_ pod attempts =>
    podText node namespace_ pod ++ " did not succeed after " ++ toString attempts ++ " checks. " ++
      logHint namespace_ pod
  | .podFailed node namespace_ pod =>
    podText node namespace_ pod ++ " failed. " ++ logHint namespace_ pod
  | .nodeUnhealthy node attempts =>
    "Node '" ++ node ++ "' did not report Ready after " ++ toString attempts ++
      " checks following certificate renewal."

/-! ## Checks -/

/-- A node could not be looked at. -/
structure LookupError where
  node : String
  cause : Maintenance.Error
  deriving DecidableEq, Repr

def LookupError.message (e : LookupError) : String :=
  "Unable to look up Node '" ++ e.node ++ "': '" ++ e.cause.message ++ "'"

/-- Whether the node of a name is ready. -/
def isHealthy (node : String) : Maintenance.Dialogue (Except LookupError Bool) := do
  match ← Maintenance.getNode node with
  | .ok object => return .ok object.isReady
  | .error cause => return .error ⟨node, cause⟩

/-- What the phase of a pod means. -/
def phaseCheck : Option String → Check Unit
  | some "Succeeded" => .ready ()
  | some "Failed" => .hopeless
  | _ => .notReady

def checkPod (namespace_ pod : String) : Maintenance.Dialogue (Check Unit) := do
  match ← Maintenance.getPod namespace_ pod with
  | .ok object => return phaseCheck object.phase
  | .error _ => return .failed

def checkNode (node : String) : Maintenance.Dialogue (Check Unit) := do
  match ← isHealthy node with
  | .ok true => return .ready ()
  | .ok false => return .notReady
  | .error _ => return .failed

/-! ## Renewal -/

def waitForPod (policy : Polling.Policy) (node namespace_ pod : String) :
    Maintenance.Dialogue (Except Error Unit) :=
  (Polling.poll policy (checkPod namespace_ pod)).mapError fun
    | .aborted _ => .podFailed node namespace_ pod
    | .exhausted attempts => .podTimeout node namespace_ pod attempts

def waitForNode (policy : Polling.Policy) (node : String) :
    Maintenance.Dialogue (Except Error Unit) :=
  (Polling.poll policy (checkNode node)).mapError fun
    | .aborted attempts | .exhausted attempts => .nodeUnhealthy node attempts

/-- Creates the pod for a node, and gives the namespace and name that it got. -/
def createPod (image : Maintenance.Image) (threshold : String) (node : ControlPlaneNode) :
    Maintenance.Dialogue (Except Error (String × String)) := do
  let pod := Maintenance.pod node threshold image
  match ← Maintenance.createPod node pod with
  | .error cause => return .error (.createPod node.name cause)
  | .ok created =>
    match created.metadata.name with
    | none => return .error (.podWithoutName node.name)
    | some name =>
      return .ok (created.metadata.namespace_.getD (pod.metadata.namespace_.getD ""), name)

def renewNode (policy : Polling.Policy) (image : Maintenance.Image) (threshold : String)
    (node : ControlPlaneNode) : Maintenance.Dialogue (Except Error Unit) :=
  (createPod image threshold node).andThen fun (namespace_, pod) =>
    (waitForPod policy node.name namespace_ pod).andThen fun _ => waitForNode policy node.name

/-- Renews the certificates on nodes, one after the other, and gives their names. -/
def renewNodes (policy : Polling.Policy) (image : Maintenance.Image) (threshold : String) :
    List ControlPlaneNode → Maintenance.Dialogue (Except Error (List String))
  | [] => .done (.ok [])
  | node :: rest =>
    (renewNode policy image threshold node).andThen fun _ =>
      (renewNodes policy image threshold rest).andThen fun names => .done (.ok (node.name :: names))

/-- Renews the certificates on all control-plane nodes, and gives the names of the nodes in the
order of the listing. -/
def renew (policy : Polling.Policy) (image : Maintenance.Image) (threshold : String) :
    Maintenance.Dialogue (Except Error (List String)) := do
  match ← Maintenance.listNodes with
  | .error cause => return .error (.listNodes cause)
  | .ok [] => return .error .noNodes
  | .ok nodes => renewNodes policy image threshold nodes

end CertRenewal.Renewal.InPlace
