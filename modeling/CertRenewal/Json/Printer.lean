import CertRenewal.Json.Basic

/-!
# Writing JSON

`render` writes a value without blanks. `pretty` writes every item and every field on a line of its
own, two blanks deeper than what contains it, and an empty array or object on one line.
-/

namespace CertRenewal.Json

/-- The lower-case digit of a number below sixteen. -/
def hexDigit (n : Nat) : Char :=
  if n < 10 then Char.ofNat (48 + n) else Char.ofNat (87 + n)

/-- A character of a string. Quotes, backslashes and control characters are escaped. -/
def escape (c : Char) : List Char :=
  if c = '\x22' then ['\\', '\x22']
  else if c = '\\' then ['\\', '\\']
  else if c = '\x08' then ['\\', 'b']
  else if c = '\x0c' then ['\\', 'f']
  else if c = '\n' then ['\\', 'n']
  else if c = '\x0d' then ['\\', 'r']
  else if c = '\t' then ['\\', 't']
  else if c.toNat < 32 then ['\\', 'u', '0', '0', hexDigit (c.toNat / 16), hexDigit (c.toNat % 16)]
  else [c]

def quoted (s : List Char) : List Char := '\x22' :: (s.flatMap escape ++ ['\x22'])

def Number.text : Number → List Char
  | .integer n => (toString n).toList
  | .decimal x => x.shortText

mutual

def render : Json → List Char
  | .null => "null".toList
  | .bool true => "true".toList
  | .bool false => "false".toList
  | .number n => n.text
  | .string s => quoted s.toList
  | .array items => '[' :: renderItems items
  | .object fields => '{' :: renderFields fields

/-- The items of an array that has been opened, and its end. -/
def renderItems : List Json → List Char
  | [] => [']']
  | [value] => render value ++ [']']
  | value :: rest => render value ++ ',' :: renderItems rest

/-- The fields of an object that has been opened, and its end. -/
def renderFields : Fields → List Char
  | [] => ['}']
  | [(key, value)] => quoted key.toList ++ ':' :: (render value ++ ['}'])
  | (key, value) :: rest =>
    quoted key.toList ++ ':' :: (render value ++ ',' :: renderFields rest)

end

def newLine (depth : Nat) : List Char := '\n' :: List.replicate (2 * depth) ' '

mutual

/-- A value whose items or fields are indented to `depth + 1`. -/
def prettyAt (depth : Nat) : Json → List Char
  | .array [] => ['[', ']']
  | .array items => '[' :: prettyItems depth items
  | .object [] => ['{', '}']
  | .object fields => '{' :: prettyFields depth fields
  | value => render value

def prettyItems (depth : Nat) : List Json → List Char
  | [] => newLine depth ++ [']']
  | [value] => newLine (depth + 1) ++ prettyAt (depth + 1) value ++ newLine depth ++ [']']
  | value :: rest =>
    newLine (depth + 1) ++ prettyAt (depth + 1) value ++ ',' :: prettyItems depth rest

def prettyFields (depth : Nat) : Fields → List Char
  | [] => newLine depth ++ ['}']
  | [(key, value)] =>
    newLine (depth + 1) ++ quoted key.toList ++ ':' :: ' ' :: prettyAt (depth + 1) value ++
      newLine depth ++ ['}']
  | (key, value) :: rest =>
    newLine (depth + 1) ++ quoted key.toList ++ ':' :: ' ' :: prettyAt (depth + 1) value ++
      ',' :: prettyFields depth rest

end

def pretty (value : Json) : List Char := prettyAt 0 value

end CertRenewal.Json
