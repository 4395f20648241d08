import CertRenewal.Number.Double

/-!
# JSON values

Objects keep their fields in a list. A document read from text may name a key twice;
`Json.canonical` gives the value with the fields of every object in key order and the last value of
a key that is named twice.
-/

namespace CertRenewal

/-- A number: an integer of up to 64 bits, or a decimal of double precision. -/
inductive Json.Number where
  | integer (value : Int)
  | decimal (value : CertRenewal.Number.Decimal)
  deriving DecidableEq, Repr

inductive Json where
  | null
  | bool (value : Bool)
  | number (value : Json.Number)
  | string (value : String)
  | array (items : List Json)
  | object (fields : List (String × Json))
  deriving Repr, Inhabited, BEq

namespace Json

abbrev Fields := List (String × Json)

def ofInt (n : Int) : Json := .number (.integer n)

/-- The first field of a key. -/
def Fields.get? (fields : Fields) (key : String) : Option Json :=
  List.lookup key fields

/-- The first field of a key, where a null counts as no value. -/
def Fields.value? (fields : Fields) (key : String) : Option Json :=
  match Fields.get? fields key with
  | some .null => none
  | value => value

/-- Puts a field in its place in key order, instead of one of the same key. -/
def Fields.insert (key : String) (value : Json) : Fields → Fields
  | [] => [(key, value)]
  | (k, v) :: rest =>
    if key = k then (key, value) :: rest
    else if key < k then (key, value) :: (k, v) :: rest
    else (k, v) :: Fields.insert key value rest

/-- The fields in key order; of several with one key the last is kept. -/
def Fields.sorted (fields : Fields) : Fields :=
  fields.foldl (fun sorted (key, value) => Fields.insert key value sorted) []

def get? (key : String) : Json → Option Json
  | .object fields => Fields.get? fields key
  | _ => none

/-- The fields of an object; other values have none. -/
def fields : Json → Fields
  | .object fields => fields
  | _ => []

/-- The items of an array; other values have none. -/
def items : Json → List Json
  | .array items => items
  | _ => []

def string? : Json → Option String
  | .string s => some s
  | _ => none

def getString? (key : String) (value : Json) : Option String :=
  (value.get? key).bind string?

mutual

/-- The value with the fields of every object in key order and each key once. -/
def canonical : Json → Json
  | .array items => .array (canonicalItems items)
  | .object fields => .object (Fields.sorted (canonicalFields fields))
  | value => value

def canonicalItems : List Json → List Json
  | [] => []
  | value :: rest => canonical value :: canonicalItems rest

def canonicalFields : Fields → Fields
  | [] => []
  | (key, value) :: rest => (key, canonical value) :: canonicalFields rest

end

end Json

end CertRenewal
