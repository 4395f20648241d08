import CertRenewal.Base64
import CertRenewal.Cluster.Timestamp
import CertRenewal.Json.Basic
import CertRenewal.Text.Utf8

/-!
# The shapes of cluster objects

A shape says which fields an object may have and of what type they are. `Shape.read` checks a value
against a shape and gives its normal form: fields that the shape does not name and fields that are
null are dropped, a required field that is missing takes the empty value of its type, and a key that
is given twice keeps its last value.
-/

namespace CertRenewal.Cluster

/-- The type of a value in a cluster object. -/
inductive Shape where
  | any
  | bool
  | integer32
  | integer64
  | string
  | timestamp
  | bytes
  | integerOrString
  | list (item : Shape)
  | map (value : Shape)
  | record (required optional : List (String × Shape))

namespace Shape

mutual

/-- The value that a required field has when it is missing. -/
def empty : Shape → Json
  | .any => .null
  | .bool => .bool false
  | .integer32 | .integer64 | .integerOrString => .ofInt 0
  | .string | .bytes => .string ""
  | .timestamp => .string "1970-01-01T00:00:00Z"
  | .list _ => .array []
  | .map _ => .object []
  | .record required _ => .object (emptyFields required)

def emptyFields : List (String × Shape) → Json.Fields
  | [] => []
  | (key, shape) :: rest => (key, empty shape) :: emptyFields rest

end

/-- Whether an integer fits a number of bits, one of which is the sign. -/
def fits (bits : Nat) (n : Int) : Bool := -Nat.pow 2 (bits - 1) ≤ n && n < Nat.pow 2 (bits - 1)

def readInteger (bits : Nat) : Json → Option Json
  | .number (.integer n) => if fits bits n then some (.ofInt n) else none
  | _ => none

def readTimestamp (text : String) : Option Json :=
  (Timestamp.normalize text.toList).map fun s => .string (String.ofList s)

/-- Reads bytes, which are written in base64. -/
def readBytes (text : String) : Option Json :=
  match Base64.decode (Text.Utf8.encode text.toList) with
  | .ok _ => some (.string text)
  | .error _ => none

mutual

/-- The normal form of a value of a shape. -/
def read : Shape → Json → Option Json
  | .any, value => some value
  | .bool, .bool b => some (.bool b)
  | .integer32, value => readInteger 32 value
  | .integer64, value => readInteger 64 value
  | .string, .string s => some (.string s)
  | .timestamp, .string s => readTimestamp s
  | .bytes, .string s => readBytes s
  | .bytes, .null => some (.string "")
  | .integerOrString, .string s => some (.string s)
  | .integerOrString, value => readInteger 32 value
  | .list item, .array values => (values.mapM (read item)).map .array
  | .map shape, .object fields => do
    let fields ← fields.mapM fun (key, value) => (read shape value).map fun value => (key, value)
    return .object (Json.Fields.sorted fields)
  | .record required optional, .object fields => do
    return .object ((← readFields true required fields) ++ (← readFields false optional fields))
  | _, _ => none

/-- The normal form of the fields that a record names. -/
def readFields (required : Bool) (shapes : List (String × Shape)) (fields : Json.Fields) :
    Option Json.Fields :=
  match shapes with
  | [] => some []
  | (key, shape) :: rest => do
    let values := fields.filter fun (k, _) => k == key
    let last ← values.foldlM (fun _ (_, value) =>
      match value with
      | .null => some none
      | value => (read shape value).map some) none
    let more ← readFields required rest fields
    match last with
    | some value => return (key, value) :: more
    | none => return if required then (key, empty shape) :: more else more

end

/-- A record whose fields are all optional. -/
def options (fields : List (String × Shape)) : Shape := .record [] fields

def strings : Shape := .list .string

def texts (keys : List String) : List (String × Shape) := keys.map fun key => (key, .string)

end Shape

end CertRenewal.Cluster
