import CertRenewal.Json.Basic
import CertRenewal.Text.Quoted

/-!
# Values in messages

A message about a value of the wrong type says what the value is.
-/

namespace CertRenewal.Json

/-- What a value is, for a message. -/
def describe : Json → String
  | .null => "null"
  | .bool b => "boolean `" ++ toString b ++ "`"
  | .number (.integer n) => "integer `" ++ toString n ++ "`"
  | .number (.decimal x) => "floating point `" ++ String.ofList x.plainText ++ "`"
  | .string s => "string " ++ Text.quote s
  | .array _ => "sequence"
  | .object _ => "map"

end CertRenewal.Json
