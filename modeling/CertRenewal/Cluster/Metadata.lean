import CertRenewal.Cluster.Shapes

/-!
# Metadata of cluster objects

Every object carries metadata. The parts that this library reads or writes have fields of their own;
`others` keeps the rest in its normal form, so that an object is written back as it was read.
-/

namespace CertRenewal.Cluster

/-- Keys and their values, in key order. -/
abbrev Labels := List (String × String)

namespace Labels

/-- The labels of an object whose values are strings. -/
def ofJson (value : Json) : Labels :=
  value.fields.filterMap fun (key, value) => value.string?.map fun value => (key, value)

def toJson (labels : Labels) : Json :=
  .object (labels.map fun (key, value) => (key, .string value))

end Labels

structure Metadata where
  name : Option String
  generateName : Option String
  namespace_ : Option String
  resourceVersion : Option String
  labels : Option Labels
  annotations : Option Labels
  others : Json.Fields
  deriving Repr, BEq

namespace Metadata

def empty : Metadata := ⟨none, none, none, none, none, none, []⟩

/-- The keys that have fields of their own. -/
def ownKeys : List String :=
  ["name", "generateName", "namespace", "resourceVersion", "labels", "annotations"]

def ofJson? (value : Json) : Option Metadata := do
  let value ← Shape.metadata.read value
  return {
    name := value.getString? "name"
    generateName := value.getString? "generateName"
    namespace_ := value.getString? "namespace"
    resourceVersion := value.getString? "resourceVersion"
    labels := (value.get? "labels").map Labels.ofJson
    annotations := (value.get? "annotations").map Labels.ofJson
    others := value.fields.filter fun (key, _) => !ownKeys.contains key }

/-- A field that is left out when it has no value. -/
def field (key : String) (value : Option Json) : Json.Fields :=
  match value with
  | some value => [(key, value)]
  | none => []

def toJson (m : Metadata) : Json :=
  .object
    (field "name" (m.name.map .string) ++ field "generateName" (m.generateName.map .string) ++
      field "namespace" (m.namespace_.map .string) ++
      field "resourceVersion" (m.resourceVersion.map .string) ++
      field "labels" (m.labels.map Labels.toJson) ++
      field "annotations" (m.annotations.map Labels.toJson) ++ m.others)

/-- The name of an object for people: its name, else what its name is to start with. -/
def anyName (m : Metadata) : String := (m.name.orElse fun _ => m.generateName).getD ""

def ownerKinds (m : Metadata) : List String :=
  match Json.Fields.get? m.others "ownerReferences" with
  | some owners => owners.items.filterMap (Json.getString? "kind")
  | none => []

end Metadata

/-- Whether every field of a key is a given string. -/
def isTagged (key text : String) (fields : Json.Fields) : Bool :=
  fields.all fun (k, value) => k != key || value.string? == some text

/-- Reads the parts of an object of a kind of the core group. The kind need not be named, but must
be right where it is. -/
def readObject (kind : String) (parts : List (String × Shape)) (value : Json) :
    Option (Metadata × Json) := do
  let normal ← (Shape.options (("metadata", Shape.metadata) :: parts)).read value
  if isTagged "apiVersion" "v1" value.fields && isTagged "kind" kind value.fields then
    let metadata ← Metadata.ofJson? ((normal.get? "metadata").getD (.object []))
    return (metadata, normal)
  else none

def writeObject (kind : String) (metadata : Metadata) (parts : Json.Fields) : Json :=
  .object
    ([("apiVersion", .string "v1"), ("kind", .string kind), ("metadata", metadata.toJson)] ++ parts)

end CertRenewal.Cluster
