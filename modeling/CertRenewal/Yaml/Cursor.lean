import CertRenewal.Yaml.Character

/-!
# Walking through a YAML text

A cursor is a place in a text: what lies ahead, in which line and column, and whether a key of a
mapping may begin here. Line breaks are made equal before the walk begins, so that each is one
character. `nextToken` walks over blanks, comments and line breaks to where something stands.
-/

namespace CertRenewal.Yaml

/-- Makes carriage returns and next-line characters, alone or in a pair, into line feeds. -/
def normalizeBreaks : List Char → List Char
  | '\x0d' :: '\n' :: rest => '\n' :: normalizeBreaks rest
  | c :: rest => (if c = '\x0d' ∨ c = '\u0085' then '\n' else c) :: normalizeBreaks rest
  | [] => []

/-- The characters that a YAML text may hold. -/
def isAllowed (c : Char) : Bool :=
  let n := c.toNat
  n == 0x09 || n == 0x0A || n == 0x0D || (0x20 ≤ n && n ≤ 0x7E) || n == 0x85 ||
  (0xA0 ≤ n && n ≤ 0xFFFD) || 0x10000 ≤ n

structure Place where
  line : Nat
  column : Nat
  /-- Whether the key of a mapping may begin here. -/
  keyAllowed : Bool
  deriving DecidableEq, Repr

namespace Place

def first : Place := ⟨0, 0, true⟩

def step (p : Place) : Place := { p with column := p.column + 1 }

def nextLine (p : Place) : Place := { p with line := p.line + 1, column := 0 }

/-- The same place, where a key may begin or may not. -/
def withKey (allowed : Bool) (p : Place) : Place := { p with keyAllowed := allowed }

end Place

/-- A place in a text, what lies ahead, and the names of the anchors behind. -/
structure Cursor where
  rest : List Char
  place : Place
  /-- The slot that each name of an anchor stands for. -/
  anchors : List (List Char × Nat)
  deriving DecidableEq, Repr

/-- Walks over blanks, comments and line breaks. `comment` says that a comment has begun. Outside of
brackets a key may begin on a new line, and tabs may not stand before it. -/
def walk (flow comment : Bool) (p : Place) : List Char → Place × List Char
  | [] => (p, [])
  | c :: cs =>
    if isBreak c then walk flow false (if flow then p.nextLine else p.nextLine.withKey true) cs
    else if comment then walk flow true p.step cs
    else if c = ' ' || (c = '\t' && (flow || !p.keyAllowed)) || (c = '\ufeff' && p.column == 0) then
      walk flow false p.step cs
    else if c = '#' then walk flow true p.step cs
    else (p, c :: cs)

/-- Whether a text starts with three equal characters that stand alone. -/
def isMarker (mark : Char) : List Char → Bool
  | a :: b :: c :: rest => a == mark && b == mark && c == mark && isBlankOrEnd rest.head?
  | _ => false

/-- Whether a text, which starts a line, starts with a mark of a document. -/
def isDocumentMarker (s : List Char) : Bool := isMarker '-' s || isMarker '.' s

namespace Cursor

/-- The cursor where the next token stands. -/
def nextToken (flow : Bool) (s : Cursor) : Cursor :=
  let (place, rest) := walk flow false s.place s.rest
  { s with place, rest }

/-- Passes over a character, after which a key may begin or may not. -/
def advance (keyAllowed : Bool) (s : Cursor) : Cursor :=
  { s with place := s.place.step.withKey keyAllowed, rest := s.rest.drop 1 }

def atEnd (s : Cursor) : Bool :=
  s.rest.isEmpty || (s.place.column == 0 && isDocumentMarker s.rest)

/-- Whether a character is ahead that is followed by a blank or the end. -/
def isAhead (mark : Char) (s : Cursor) : Bool :=
  match s.rest with
  | c :: rest => c == mark && isBlankOrEnd rest.head?
  | [] => false

def isAmong (marks : List Char) (s : Cursor) : Bool :=
  match s.rest with
  | c :: _ => marks.contains c
  | [] => false

/-- Whether what began at a place and ends before this cursor may be a key: it began where a key may
begin, and is neither longer than a line nor than 1024 characters. -/
def endsKeyFrom (start : Place) (s : Cursor) : Bool :=
  start.keyAllowed && s.place.line == start.line && s.place.column ≤ start.column + 1024

end Cursor

end CertRenewal.Yaml
