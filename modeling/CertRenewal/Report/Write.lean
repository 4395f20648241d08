import CertRenewal.Report.Format
import CertRenewal.Report.Table
import CertRenewal.Yaml.Writer

/-!
# Writing a report

A report is written to a sink in one of the output formats. An empty report writes nothing in any of
them.
-/

namespace CertRenewal.Report

def yamlText (r : Report) : List Char := Yaml.render r.toJson

def jsonText (r : Report) : List Char := r.toJson.pretty ++ ['\n']

def write (r : Report) : Format → Writing Unit
  | .table => Table.write r
  | .yaml => if r.isEmpty then return () else Table.put r.yamlText
  | .json => if r.isEmpty then return () else Table.put r.jsonText

def render (r : Report) (format : Format) : List UInt8 :=
  ((write r format).run ⟨[], none⟩).2.taken

end CertRenewal.Report
