import CertRenewal.Text.Printable

/-!
# Quoted text in messages

Messages show a text between quotes, in one line: quotes and backslashes are escaped, blank control
characters are written as letters, and any other character that cannot be printed is written as its
code in hexadecimal.
-/

namespace CertRenewal.Text

def quoteChar (c : Char) : List Char :=
  if c = '\x22' then ['\\', '\x22']
  else if c = '\\' then ['\\', '\\']
  else if c = '\n' then ['\\', 'n']
  else if c = '\x0d' then ['\\', 'r']
  else if c = '\t' then ['\\', 't']
  else if c = '\x00' then ['\\', '0']
  else if isPrintable c then [c]
  else '\\' :: 'u' :: '{' :: (Nat.toDigits 16 c.toNat ++ ['}'])

def quote (s : String) : String :=
  String.ofList ('\x22' :: (s.toList.flatMap quoteChar ++ ['\x22']))

/-- A path between quotes, where a single quote is escaped too. -/
def quotePath (s : String) : String :=
  String.ofList
    ('\x22' :: (s.toList.flatMap (fun c => if c = '\x27' then ['\\', '\x27'] else quoteChar c) ++
      ['\x22']))

end CertRenewal.Text
