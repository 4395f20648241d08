import CertRenewal.Duration
import CertRenewal.Renewal.InPlace
import CertRenewal.Renewal.Rolling

/-!
# Choosing how to renew

Certificates are renewed in place or by a rolling update. The threshold must be a duration in either
case, and is checked before anything is asked of the cluster.
-/

namespace CertRenewal.Renewal

inductive Mode where
  | inPlace
  | rollingUpdate
  deriving DecidableEq, Repr

namespace Mode

def ofFlag (inPlace : Bool) : Mode := if inPlace then .inPlace else .rollingUpdate

def name : Mode → String
  | .inPlace => "in-place"
  | .rollingUpdate => "rolling-update"

end Mode

inductive Outcome where
  | inPlace (nodes : List String)
  | rollingUpdate (summary : Rolling.Summary)
  deriving DecidableEq, Repr

/-- What to do next is told to the person who asked for the renewal. -/
def Outcome.banner : Outcome → String
  | .inPlace nodes =>
    "Certificates renewed in place on " ++ toString nodes.length ++ " control-plane node(s): " ++
      Text.joinStrings ", " nodes ++ "\nRenewal pods are kept in namespace '" ++
      Maintenance.podNamespace ++
      "' for inspection. Monitor node health with:\n\n    kubectl get nodes -w"
  | .rollingUpdate s =>
    "Control plane '" ++ s.namespace_ ++ "/" ++ s.controlPlane ++ "' now uses machine template '" ++
      s.newTemplate ++ "' (previously '" ++ s.previousTemplate ++
      "').\nControl-plane machines will be replaced one at a time. Monitor progress with:\n\n" ++
      "    kubectl get machines -w\n    kubectl get kcp -w\n    kubectl get nodes -w"

inductive Error where
  | threshold (text : String) (cause : Duration.Error)
  | inPlace (cause : InPlace.Error)
  | rollingUpdate (cause : Rolling.Error)
  deriving Repr

def Error.message : Error → String
  | .threshold text cause =>
    "Invalid expiration threshold '" ++ text ++ "', expected a duration such as '24h': '" ++
      cause.message ++ "'"
  | .inPlace cause => "In-place certificate renewal failed: " ++ cause.message
  | .rollingUpdate cause => "Rolling-update certificate renewal failed: " ++ cause.message

/-- Checks that a threshold is a duration. -/
def validateThreshold (threshold : String) : Except Error Unit :=
  match Duration.parse threshold.toList with
  | .ok _ => .ok ()
  | .error cause => .error (.threshold threshold cause)

inductive Call where
  | maintenance (call : Maintenance.Call)
  | machines (call : Machines.Call)
  deriving Repr

def Call.Answer : Call → Type
  | .maintenance call => call.Answer
  | .machines call => call.Answer

/-- A computation that may ask the questions of both ways of renewing. -/
abbrev Dialogue := CertRenewal.Dialogue Call Call.Answer

def renewInPlace (policy : Polling.Policy) (image : Maintenance.Image) (threshold : String) :
    Dialogue (Except Error Outcome) := do
  let outcome ←
    (InPlace.renew policy image threshold).interpret fun call => .call (.maintenance call)
  match outcome with
  | .ok nodes => return .ok (.inPlace nodes)
  | .error cause => return .error (.inPlace cause)

/-- Renews by a rolling update. All certificates are renewed, so that a threshold has no effect. -/
def renewRolling : Dialogue (Except Error Outcome) := do
  match ← Rolling.renew.interpret fun call => .call (.machines call) with
  | .ok summary => return .ok (.rollingUpdate summary)
  | .error cause => return .error (.rollingUpdate cause)

/-- Renews the certificates of the control plane that expire within a threshold. -/
def renew (policy : Polling.Policy) (image : Maintenance.Image) (mode : Mode) (threshold : String) :
    Dialogue (Except Error Outcome) :=
  match validateThreshold threshold with
  | .error e => .done (.error e)
  | .ok _ =>
    match mode with
    | .inPlace => renewInPlace policy image threshold
    | .rollingUpdate => renewRolling

end CertRenewal.Renewal
