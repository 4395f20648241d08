import CertRenewal.Cluster.Metadata
import CertRenewal.Cluster.ResourceKind
import CertRenewal.Json.Describe
import CertRenewal.Text.Casing
import CertRenewal.Text.Split

/-!
# References to machine templates

A control plane names the template of its machines by kind, name and, where they are given, the
version of the kind and a namespace. The reference is read from an object or from an array of these
four in the order version, kind, name, namespace. `TemplateReference.resourceKind` says of which
kind the objects are among which the template is found.
-/

namespace CertRenewal.Machines

open CertRenewal.Cluster (ResourceKind)

def domain : String := "cluster.x-k8s.io"

def machinesVersion : String := "v1alpha3"

def controlPlaneKind : ResourceKind :=
  ⟨"controlplane." ++ domain, machinesVersion, "KubeadmControlPlane", "kubeadmcontrolplanes"⟩

structure TemplateReference where
  apiVersion : Option String
  kind : String
  name : String
  namespace_ : Option String
  deriving DecidableEq, Repr

namespace TemplateReference

/-- The kind of the template. The group and version are cut out of the version of the reference;
one without a slash belongs to the core group. The collection is named for the kind, in lower case
and with an `s`. -/
def resourceKind (r : TemplateReference) : ResourceKind :=
  let plural := String.ofList (Text.lowerCase r.kind.toList ++ ['s'])
  match r.apiVersion with
  | none =>
    ⟨"infrastructure." ++ domain, machinesVersion, r.kind, plural⟩
  | some apiVersion =>
    match Text.cut '/' apiVersion.toList with
    | some (group, version) => ⟨String.ofList group, String.ofList version, r.kind, plural⟩
    | none => ⟨"", apiVersion, r.kind, plural⟩

/-- The namespace of the template; without one it is empty. -/
def namespaceText (r : TemplateReference) : String := r.namespace_.getD ""

/-- The template, for messages. -/
def display (r : TemplateReference) : String :=
  r.kind ++ " '" ++ r.namespaceText ++ "/" ++ r.name ++ "'"

def toJson (r : TemplateReference) : Json :=
  .object
    (Cluster.Metadata.field "apiVersion" (r.apiVersion.map .string) ++
      [("kind", .string r.kind), ("name", .string r.name)] ++
      Cluster.Metadata.field "namespace" (r.namespace_.map .string))

/-! ## Reading -/

inductive Error where
  /-- The value is neither an object nor an array. -/
  | notRecord (value : Json)
  /-- A field is no string. -/
  | notText (value : Json)
  | missing (key : String)
  /-- An array ends too early. -/
  | tooShort (length : Nat)
  | tooLong (length : Nat)
  deriving Repr, BEq

def Error.message : Error → String
  | .notRecord value =>
    "invalid type: " ++ value.describe ++ ", expected struct TemplateReference"
  | .notText value => "invalid type: " ++ value.describe ++ ", expected a string"
  | .missing key => "missing field `" ++ key ++ "`"
  | .tooShort length =>
    "invalid length " ++ toString length ++ ", expected struct TemplateReference with 4 elements"
  | .tooLong length =>
    "invalid length " ++ toString length ++ ", expected fewer elements in array"

def text : Json → Except Error String
  | .string s => .ok s
  | value => .error (.notText value)

def optionalText : Json → Except Error (Option String)
  | .null => .ok none
  | value => (text value).map some

/-- Reads a field that may be missing, with a given reader. -/
def fieldWith (reader : Json → Except Error α) (fields : Json.Fields) (key : String) :
    Except Error (Option α) :=
  match Json.Fields.get? fields key with
  | some value => (reader value).map some
  | none => .ok none

/-- Reads the fields of an object in the order of their keys; those that are missing are reported
afterwards. Other fields do not matter. -/
def ofFields (fields : Json.Fields) : Except Error TemplateReference := do
  let apiVersion ← fieldWith optionalText fields "apiVersion"
  let kind ← fieldWith text fields "kind"
  let name ← fieldWith text fields "name"
  let namespace_ ← fieldWith optionalText fields "namespace"
  match kind, name with
  | none, _ => throw (.missing "kind")
  | _, none => throw (.missing "name")
  | some kind, some name => return ⟨apiVersion.join, kind, name, namespace_.join⟩

/-- Reads the items of an array. An empty array lacks a kind already. -/
def ofItems (items : List Json) : Except Error TemplateReference := do
  match items with
  | [] => throw (.tooShort 1)
  | [apiVersion] => do
    let _ ← optionalText apiVersion
    throw (.tooShort 1)
  | [apiVersion, kind] => do
    let _ ← optionalText apiVersion
    let _ ← text kind
    throw (.tooShort 2)
  | [apiVersion, kind, name] =>
    return ⟨← optionalText apiVersion, ← text kind, ← text name, none⟩
  | apiVersion :: kind :: name :: namespace_ :: more => do
    let reference : TemplateReference :=
      ⟨← optionalText apiVersion, ← text kind, ← text name, ← optionalText namespace_⟩
    if more.isEmpty then return reference else throw (.tooLong (more.length + 4))

def ofJson : Json → Except Error TemplateReference
  | .object fields => ofFields fields
  | .array items => ofItems items
  | value => .error (.notRecord value)

end TemplateReference

end CertRenewal.Machines
