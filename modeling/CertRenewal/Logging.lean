import CertRenewal.Text.Casing

/-!
# Settings of the log

How the program writes its log is said by two environment variables: the layout of an entry, and
whether entries are coloured. Both are checked before anything else is done.
-/

namespace CertRenewal.Logging

/-- The layout of an entry of the log. -/
inductive Format where
  | full
  | compact
  | pretty
  | json
  deriving DecidableEq, Repr

def Format.ofName? : String → Option Format
  | "full" => some .full
  | "compact" => some .compact
  | "pretty" => some .pretty
  | "json" => some .json
  | _ => none

/-- How the log is written. -/
structure Settings where
  format : Format
  coloured : Bool
  deriving DecidableEq, Repr

inductive Error where
  | format (value : String)
  | coloured (value : String)
  deriving DecidableEq, Repr

def formatVariable : String := "LOGGING_FORMATTER"

def colourVariable : String := "LOGGING_ANSI_ENABLED"

def Error.message : Error → String
  | .format value =>
    "Unknown log format in '" ++ formatVariable ++ "=" ++ value ++
      "', expected one of full, compact, pretty or json: 'unknown variant `" ++ value ++
      "`, expected one of `full`, `compact`, `pretty`, `json`'"
  | .coloured value =>
    "Expected true or false in '" ++ colourVariable ++ "=" ++ value ++
      "': 'provided string was not `true` or `false`'"

def readFormat : Option String → Except Error Format
  | none => .ok .full
  | some value =>
    match Format.ofName? value with
    | some format => .ok format
    | none => .error (.format value)

/-- Reads whether entries are coloured; the case of the letters does not matter. -/
def readColoured : Option String → Except Error Bool
  | none => .ok false
  | some value =>
    match String.ofList (Text.lowerCase value.toList) with
    | "true" => .ok true
    | "false" => .ok false
    | _ => .error (.coloured value)

/-- Reads the settings from the values of the variables; one that is not set has its default. -/
def Settings.ofValues (format coloured : Option String) : Except Error Settings := do
  let format ← readFormat format
  let coloured ← readColoured coloured
  return ⟨format, coloured⟩

end CertRenewal.Logging
