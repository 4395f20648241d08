import CertRenewal.Yaml.Cursor

/-!
# Plain scalars

A plain scalar is text without quotes. It ends at a colon that a blank follows, at a comment, inside
brackets at a bracket or comma, and where a line is not indented enough. Blanks inside it are kept;
a line break becomes a space, and several become one less.
-/

namespace CertRenewal.Yaml

/-- What stands between two words of a scalar. Characters are in reverse order. -/
inductive Gap where
  | none
  | blanks (characters : List Char)
  /-- Line breaks; the first one is missing when it was escaped. -/
  | breaks (first : Option Char) (more : List Char)
  deriving DecidableEq, Repr

namespace Gap

def isBroken : Gap → Bool
  | .breaks _ _ => true
  | _ => false

/-- The gap with another blank. Blanks beside a line break do not count. -/
def addBlank (c : Char) : Gap → Gap
  | .none => .blanks [c]
  | .blanks characters => .blanks (c :: characters)
  | .breaks first more => .breaks first more

def addBreak (c : Char) : Gap → Gap
  | .breaks first more => .breaks first (c :: more)
  | _ => .breaks (some c) []

/-- What the gap reads as, in reverse order. -/
def folded : Gap → List Char
  | .none => []
  | .blanks characters => characters
  | .breaks (some '\n') [] => [' ']
  | .breaks (some '\n') more => more
  | .breaks (some c) more => more ++ [c]
  | .breaks Option.none more => more

end Gap

/-- A text that has been read, the place behind it, and what lies ahead. -/
structure Scanned where
  text : List Char
  place : Place
  rest : List Char
  deriving DecidableEq, Repr

def Cursor.behind (s : Cursor) (r : Scanned) : Cursor := { s with place := r.place, rest := r.rest }

/-- The characters that end a plain scalar inside brackets. -/
def flowMarks : List Char := [',', '[', ']', '{', '}']

/-- The characters that cannot start a plain scalar. -/
def indicators : List Char := "-?:,[]\x7b\x7d#&*!|>'\x22%@`".toList

/-- Whether a plain scalar can start here. A dash can if no blank follows, and outside of brackets a
question mark or colon too. -/
def startsPlain (flow : Bool) : List Char → Bool
  | [] => false
  | c :: rest =>
    if isBlankOrEnd (some c) then false
    else if !indicators.contains c then true
    else if c = '-' then !(rest.head?.map isBlank).getD false
    else !flow && (c = '?' || c = ':') && !isBlankOrEnd rest.head?

/-- Whether a plain scalar ends before `c :: rest`, which `gap` separates from its last word. -/
def endsPlain (flow : Bool) (indent : Nat) (gap : Gap) (p : Place) (c : Char) (rest : List Char) :
    Bool :=
  (gap != .none &&
    ((!flow && p.column < indent) || (p.column == 0 && isDocumentMarker (c :: rest)) || c = '#')) ||
  (c = ':' && isBlankOrEnd rest.head?) || (flow && flowMarks.contains c)

/-- Reads on in a plain scalar, of which `text` is the part that has been read, in reverse. A line
that continues it is indented by `indent` at least, and not with a tab; inside brackets a colon must
not stand before a mark. -/
def plainFrom (flow : Bool) (indent : Nat) (text : List Char) (gap : Gap) (p : Place) :
    List Char → Option Scanned
  | [] => some ⟨text.reverse, p.withKey gap.isBroken, []⟩
  | c :: cs =>
    if isBlank c then
      if gap.isBroken && c = '\t' && p.column < indent then none
      else plainFrom flow indent text (gap.addBlank c) p.step cs
    else if isBreak c then plainFrom flow indent text (gap.addBreak c) p.nextLine cs
    else if endsPlain flow indent gap p c cs then
      some ⟨text.reverse, p.withKey gap.isBroken, c :: cs⟩
    else if flow && c = ':' && (cs.head?.map ('?' :: flowMarks).contains).getD false then none
    else plainFrom flow indent (c :: (gap.folded ++ text)) .none p.step cs

def plainText (flow : Bool) (indent : Nat) (s : Cursor) : Option (List Char × Cursor) :=
  (plainFrom flow indent [] .none s.place s.rest).map fun r => (r.text, s.behind r)

end CertRenewal.Yaml
