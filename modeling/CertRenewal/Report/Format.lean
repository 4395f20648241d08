/-!
# Output formats

A report is written as a table, as YAML or as JSON.
-/

namespace CertRenewal.Report

inductive Format where
  | table
  | yaml
  | json
  deriving DecidableEq, Repr

namespace Format

def name : Format → String
  | .table => "table"
  | .yaml => "yaml"
  | .json => "json"

def ofName? : String → Option Format
  | "table" => some .table
  | "yaml" => some .yaml
  | "json" => some .json
  | _ => none

/-- A name that no format has. -/
structure Unknown where
  name : String
  deriving DecidableEq, Repr

def Unknown.message (e : Unknown) : String :=
  "Unknown output format '" ++ e.name ++ "', expected one of table, yaml, json."

end Format

end CertRenewal.Report
