import CertRenewal.Json.Parser
import CertRenewal.Yaml.PlainText

/-!
# Quoted scalars

Between single quotes only the quote itself is special, which is written twice. Between double
quotes a backslash starts an escape. Line breaks are folded in both, as in plain scalars.
-/

namespace CertRenewal.Yaml

def letterEscape? : Char → Option Char
  | '0' => some '\x00'
  | 'a' => some '\x07'
  | 'b' => some '\x08'
  | 't' | '\t' => some '\t'
  | 'n' => some '\n'
  | 'v' => some '\x0b'
  | 'f' => some '\x0c'
  | 'r' => some '\x0d'
  | 'e' => some '\x1b'
  | ' ' => some ' '
  | '\x22' => some '\x22'
  | '/' => some '/'
  | '\\' => some '\\'
  | 'N' => some '\u0085'
  | '_' => some '\u00a0'
  | 'L' => some '\u2028'
  | 'P' => some '\u2029'
  | _ => none

/-- The number of hexadecimal digits of an escape by code. -/
def codeWidth? : Char → Option Nat
  | 'x' => some 2
  | 'u' => some 4
  | 'U' => some 8
  | _ => none

/-- Where in a quoted scalar the reader is. -/
inductive QuoteMode where
  /-- After a word and a gap. -/
  | text (gap : Gap)
  /-- After a backslash. -/
  | escape
  /-- In a code of which so many digits are to come. -/
  | code (digits value : Nat)
  /-- After a single quote, which ends the scalar unless another one follows. -/
  | quote
  deriving DecidableEq, Repr

/-- The character of a code, unless it is a surrogate or too large. -/
def charOfCode? (n : Nat) : Option Char :=
  if n < 0xD800 ∨ (0xDFFF < n ∧ n ≤ 0x10FFFF) then some (Char.ofNat n) else none

/-- Reads on in a quoted scalar, of which `text` is the part that has been read, in reverse. -/
def quotedFrom (double : Bool) (text : List Char) (mode : QuoteMode) (p : Place) :
    List Char → Option Scanned
  | [] =>
    match mode with
    | .quote => some ⟨text.reverse, p.withKey false, []⟩
    | _ => none
  | c :: cs =>
    match mode with
    | .quote =>
      if c = '\x27' then quotedFrom double (c :: text) (.text .none) p.step cs
      else some ⟨text.reverse, p.withKey false, c :: cs⟩
    | .escape =>
      if isBreak c then quotedFrom double text (.text (.breaks none [])) p.nextLine cs
      else
        match letterEscape? c, codeWidth? c with
        | some e, _ => quotedFrom double (e :: text) (.text .none) p.step cs
        | none, some digits => quotedFrom double text (.code digits 0) p.step cs
        | none, none => none
    | .code digits value =>
      match Json.Parser.hexDigit? c with
      | none => none
      | some d =>
        let value := value * 16 + d
        if digits ≤ 1 then
          match charOfCode? value with
          | some e => quotedFrom double (e :: text) (.text .none) p.step cs
          | none => none
        else quotedFrom double text (.code (digits - 1) value) p.step cs
    | .text gap =>
      if isBlank c then quotedFrom double text (.text (gap.addBlank c)) p.step cs
      else if isBreak c then quotedFrom double text (.text (gap.addBreak c)) p.nextLine cs
      else if p.column == 0 && isDocumentMarker (c :: cs) then none
      else
        let text := gap.folded ++ text
        if !double && c = '\x27' then quotedFrom double text .quote p.step cs
        else if double && c = '\x22' then some ⟨text.reverse, p.step.withKey false, cs⟩
        else if double && c = '\\' then quotedFrom double text .escape p.step cs
        else quotedFrom double (c :: text) (.text .none) p.step cs

def quotedText (double : Bool) (s : Cursor) : Option (List Char × Cursor) :=
  (quotedFrom double [] (.text .none) s.place.step (s.rest.drop 1)).map fun r =>
    (r.text, s.behind r)

end CertRenewal.Yaml
