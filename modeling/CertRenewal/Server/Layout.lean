import CertRenewal.Json.Basic

/-!
# Layouts of messages

A layout says how a message of the server is written. It is stricter than the shape of an object: a
field must not be given twice, null is a value like any other, and a number must not be negative. On
the other hand a record may also be written as an array of its fields in order, of which those at
the end may be missing. `Layout.read` gives the message with all its fields.
-/

namespace CertRenewal.Server

/-- How a value in a message is written. -/
inductive Layout where
  | text
  /-- A number of so many bits. -/
  | natural (bits : Nat)
  /-- One of several names. -/
  | name (names : List String)
  /-- A value or null. -/
  | option (value : Layout)
  | list (item : Layout)
  /-- Fields with their keys and the values that they have when they are missing. -/
  | record (fields : List (String × Option Json × Layout))

namespace Layout

def required (key : String) (layout : Layout) : String × Option Json × Layout := (key, none, layout)

/-- A text that may be missing. -/
def optionalText (key : String) : String × Option Json × Layout := (key, some (.string ""), .text)

/-- A number that may be missing. -/
def optionalNatural (key : String) (bits : Nat) : String × Option Json × Layout :=
  (key, some (.ofInt 0), .natural bits)

mutual

def read : Layout → Json → Option Json
  | .text, .string s => some (.string s)
  | .natural bits, .number (.integer n) =>
    if 0 ≤ n && n < Nat.pow 2 bits then some (.ofInt n) else none
  | .name names, .string s => if names.contains s then some (.string s) else none
  | .name names, .object [(s, .null)] => if names.contains s then some (.string s) else none
  | .option _, .null => some .null
  | .option layout, value => read layout value
  | .list layout, .array items => (items.mapM (read layout)).map .array
  | .record fields, .object values => (readFields fields values).map .object
  | .record fields, .array items => (readItems fields items).map .object
  | _, _ => none

/-- Reads the fields of a record from those of an object. -/
def readFields (fields : List (String × Option Json × Layout)) (values : Json.Fields) :
    Option Json.Fields :=
  match fields with
  | [] => some []
  | (key, missing, layout) :: rest => do
    let value ←
      match values.filter fun (k, _) => k == key with
      | [] => missing
      | [(_, value)] => read layout value
      | _ => none
    return (key, value) :: (← readFields rest values)

/-- Reads the fields of a record from the items of an array. -/
def readItems (fields : List (String × Option Json × Layout)) (items : List Json) :
    Option Json.Fields :=
  match fields with
  | [] => if items.isEmpty then some [] else none
  | (key, missing, layout) :: rest => do
    match items with
    | [] => return (key, ← missing) :: (← readItems rest [])
    | item :: items => return (key, ← read layout item) :: (← readItems rest items)

end

def refusal : Layout :=
  .record
    [required "status" .text, optionalText "message", optionalText "reason",
      required "code" (.natural 16)]

def cause : Layout :=
  .record [optionalText "reason", optionalText "message", optionalText "field"]

def details : Layout :=
  .record
    [optionalText "name", optionalText "group", optionalText "kind", optionalText "uid",
      ("causes", some (.array []), .list cause), optionalNatural "retryAfterSeconds" 32]

def outcome : Layout :=
  .record
    [("status", some .null, .option (.name ["Success", "Failure"])), optionalNatural "code" 16,
      optionalText "message", optionalText "reason", ("details", some .null, .option details)]

end Layout

end CertRenewal.Server
