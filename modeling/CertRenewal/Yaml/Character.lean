/-!
# Characters with a meaning in YAML
-/

namespace CertRenewal.Yaml

/-- The characters that end a line. -/
def isBreak (c : Char) : Bool :=
  c = '\n' || c = '\x0d' || c = '\u0085' || c = '\u2028' || c = '\u2029'

def isBlank (c : Char) : Bool := c = ' ' || c = '\t'

def isBlankOrEnd : Option Char → Bool
  | none => true
  | some c => isBlank c || isBreak c || c = '\x00'

end CertRenewal.Yaml
