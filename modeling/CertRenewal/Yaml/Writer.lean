import CertRenewal.Json.Printer
import CertRenewal.Yaml.Scalar

/-!
# Writing YAML

A document is written in block style: the fields of an object one below the other, and the items of
an array behind dashes that stand in the column of the key they belong to. Empty arrays and objects
are written in brackets. Keys are written as they are, and must be plain words.
-/

namespace CertRenewal.Yaml

mutual

/-- A value behind the mark that introduces it, in a mapping whose keys stand in the column
`indent`; line ends are included. -/
def valueText (indent : Nat) : Json → List Char
  | .string s => stringText (indent + 2) s.toList
  | .array [] => " []\n".toList
  | .array items => '\n' :: itemsText indent items
  | .object [] => ' ' :: '{' :: '}' :: ['\n']
  | .object fields => '\n' :: indentation (indent + 2) ++ fieldsText (indent + 2) fields
  | scalar => ' ' :: (scalar.render ++ ['\n'])

/-- The fields of a mapping whose first key has its column already. -/
def fieldsText (indent : Nat) : Json.Fields → List Char
  | [] => []
  | [(key, value)] => key.toList ++ ':' :: valueText indent value
  | (key, value) :: rest =>
    key.toList ++ ':' :: valueText indent value ++ indentation indent ++ fieldsText indent rest

/-- The items of a sequence whose dashes stand in the column `indent`. -/
def itemsText (indent : Nat) : List Json → List Char
  | [] => []
  | item :: rest => indentation indent ++ '-' :: itemText indent item ++ itemsText indent rest

def itemText (indent : Nat) : Json → List Char
  | .object (field :: fields) => ' ' :: fieldsText (indent + 2) (field :: fields)
  | item => valueText indent item

end

/-- A document whose root is an object. -/
def render (document : Json) : List Char := fieldsText 0 document.fields

end CertRenewal.Yaml
