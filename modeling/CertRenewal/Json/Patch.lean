import CertRenewal.Json.Basic
import CertRenewal.Text.Split
import CertRenewal.Text.Integer

/-!
# Patching JSON documents

A patch is a list of operations on a document. A path names a value by the keys and positions that
lead to it; `replaceAt` puts another value there and fails when there is none. A patch that fails
changes nothing.
-/

namespace CertRenewal.Json

/-- The keys and positions that lead to a value. -/
abbrev Path := List String

def Path.escape (key : String) : List Char :=
  key.toList.flatMap fun c =>
    if c = '~' then ['~', '0'] else if c = '/' then ['~', '1'] else [c]

def Path.text (path : Path) : String :=
  String.ofList (path.flatMap fun key => '/' :: Path.escape key)

/-- The position that a text names: digits, without a zero in front. -/
def position? (key : String) : Option Nat :=
  match key.toList with
  | [] => none
  | ['0'] => some 0
  | '0' :: _ => none
  | digits => if digits.all Text.isDigit then some (Text.natOfDigits digits) else none

/-- Changes the first field of a key, if there is one and the change succeeds. -/
def Fields.modify? (key : String) (change : Json → Option Json) : Fields → Option Fields
  | [] => none
  | (k, value) :: rest =>
    if k = key then (change value).map fun value => (k, value) :: rest
    else (Fields.modify? key change rest).map ((k, value) :: ·)

/-- Changes the item at a position, if there is one and the change succeeds. -/
def modifyItem? (change : Json → Option Json) : Nat → List Json → Option (List Json)
  | _, [] => none
  | 0, item :: rest => (change item).map (· :: rest)
  | n + 1, item :: rest => (modifyItem? change n rest).map (item :: ·)

/-- Puts a value in the place of the one at a path. -/
def replaceAt (new : Json) : Path → Json → Option Json
  | [], _ => some new
  | key :: path, .object fields => (Fields.modify? key (replaceAt new path) fields).map .object
  | key :: path, .array items => do
    return .array (← modifyItem? (replaceAt new path) (← position? key) items)
  | _ :: _, _ => none

def getAt? : Path → Json → Option Json
  | [], value => some value
  | key :: path, .object fields => (Fields.get? fields key).bind (getAt? path)
  | key :: path, .array items => do getAt? path (← items[(← position? key)]?)
  | _ :: _, _ => none

inductive Operation where
  /-- Puts a value in the place of the one at a path. -/
  | replace (path : Path) (value : Json)
  deriving Repr, BEq

/-- Operations, applied one after the other. -/
abbrev Patch := List Operation

def Operation.toJson : Operation → Json
  | .replace path value =>
    .object [("op", .string "replace"), ("path", .string path.text), ("value", value)]

def Operation.applied? : Operation → Json → Option Json
  | .replace path value, document => replaceAt value path document

def Patch.toJson (patch : Patch) : Json := .array (patch.map Operation.toJson)

/-- The patch applied to a document, unless an operation fails. -/
def Patch.applied? (patch : Patch) (document : Json) : Option Json :=
  patch.foldlM (fun document operation => operation.applied? document) document

end CertRenewal.Json
