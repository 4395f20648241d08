import CertRenewal.Cluster.ResourceKind
import CertRenewal.Cluster.Shapes
import CertRenewal.Server.Address
import CertRenewal.Server.Reply

/-!
# Collections of objects

The objects of a kind, in one namespace or in all, form a collection with an address. They are
listed, read, created, changed and deleted by requests to it. A request that cannot be addressed is
not sent.
-/

namespace CertRenewal.Server

open CertRenewal.Cluster (Failure ResourceKind Shape)

/-- The objects of a kind, in one namespace or in all. -/
structure Collection where
  kind : ResourceKind
  namespace_ : Option String
  deriving DecidableEq, Repr

namespace Collection

def path (c : Collection) : List Char :=
  let root := if c.kind.group = "" then "/api/" else "/apis/"
  let place := (c.namespace_.map fun name => "namespaces/" ++ name ++ "/").getD ""
  (root ++ c.kind.apiVersion ++ "/" ++ place ++ c.kind.plural).toList

def objectPath (c : Collection) (name : String) : List Char := c.path ++ '/' :: name.toList

def objectType : String := "application/json"

def patchType : String := "application/json-patch+json"

/-- Sends a request to a text that should be an address, and reads the object in the response. -/
def request (method : Method) (target : List Char) (content : Option Content)
    (read : Json → Option α) : Dialogue (Except Failure α) :=
  match Address.ofText target with
  | .error cause => .done (.error (.address cause))
  | .ok address => do return (← send ⟨method, address, content⟩).object read

/-- Reads a list of objects. It must have metadata, and nothing may be given twice. -/
def readList (read : Json → Option α) : Json → Option (List α)
  | .object fields =>
    let metadata := fields.filter fun (key, _) => key == "metadata"
    let items := fields.filter fun (key, _) => key == "items"
    match metadata, items with
    | [(_, metadata)], [(_, .array items)] => do
      let _ ← Shape.listMetadata.read metadata
      items.mapM read
    | _, _ => none
  | _ => none

/-- Lists the objects that satisfy conditions, which are given as the parameters of a query. -/
def list (c : Collection) (conditions : List (String × String)) (read : Json → Option α) :
    Dialogue (Except Failure (List α)) :=
  let query := conditions.flatMap fun (key, value) => Address.parameter key value
  request .get (c.path ++ '?' :: query) none (readList read)

def get (c : Collection) (name : String) (read : Json → Option α) :
    Dialogue (Except Failure α) :=
  request .get (c.objectPath name) none read

def create (c : Collection) (object : Json) (read : Json → Option α) :
    Dialogue (Except Failure α) :=
  request .post (c.path ++ ['?']) (some ⟨objectType, object⟩) read

/-- Applies a patch to the object of a name, and gives the object as it is then. -/
def patch (c : Collection) (name : String) (patch : Json) (read : Json → Option α) :
    Dialogue (Except Failure α) :=
  request .patch (c.objectPath name ++ ['?']) (some ⟨patchType, patch⟩) read

/-- What is said with a deletion: the object is to be gone at once. -/
def deletion : Json := .object [("gracePeriodSeconds", .ofInt 0)]

/-- Reads what the server says about a deletion: an outcome, or the object that is deleted. -/
def readDeleted (read : Json → Option α) (value : Json) : Option Unit :=
  if value.canonical.getString? "kind" = some "Status" then
    (Layout.outcome.read value).map fun _ => ()
  else (read value).map fun _ => ()

/-- Deletes the object of a name. -/
def delete (c : Collection) (name : String) (read : Json → Option α) :
    Dialogue (Except Failure Unit) :=
  request .delete (c.objectPath name ++ ['?']) (some ⟨objectType, deletion⟩) (readDeleted read)

end Collection

end CertRenewal.Server
