import CertRenewal.Yaml.NodeReader

/-!
# YAML documents

A text holds one document: directives and a mark if it has directives, a node, and marks of its end.
A text without anything but blanks and comments holds a node that is not there.
-/

namespace CertRenewal.Yaml

/-- Reads the directives in front of a document. Each takes a character, so that a fuel of the
length of the text is enough. -/
def directivesFrom (d : Directives) (s : Cursor) : Nat → Option (Directives × Cursor)
  | 0 => some (d, s)
  | fuel + 1 =>
    if s.place.column == 0 && s.isAmong ['%'] then do
      let (d, rest) ← directive d s.rest
      let rest ← lineEnd rest
      let s := { s with place := s.place.nextLine.withKey true, rest := rest }
      directivesFrom d (s.nextToken false) fuel
    else some (d, s)

def Cursor.isAtMarker (mark : Char) (s : Cursor) : Bool :=
  s.place.column == 0 && isMarker mark s.rest

/-- Whether nothing follows but marks that end a document, of which there are at most so many. -/
def isFinished (s : Cursor) : Nat → Bool
  | 0 => s.rest.isEmpty
  | fuel + 1 =>
    s.rest.isEmpty || (s.isAtMarker '.' && isFinished ((s.skip 3).nextToken false) fuel)

/-- Reads the root of a document, which is missing when the document has none. -/
def root (fuel : Nat) (handles : Handles) (s : Cursor) : Option (Node × Cursor) :=
  if s.isAtMarker '-' then
    let s := (s.skip 3).nextToken false
    if s.place.column == 0 && s.isAmong ['%'] then none
    else blockNode fuel handles (-1) false .empty s
  else if s.isAtMarker '.' then none
  else blockNode fuel handles (-1) false .empty s

/-- Reads a text that holds one document. -/
def parse (text : List Char) : Option Node := do
  if !text.all isAllowed then none
  let s : Cursor := ⟨normalizeBreaks text, .first, []⟩
  let length := s.rest.length
  let s := s.nextToken false
  let (d, s) ← directivesFrom ⟨false, []⟩ s length
  if (d.hasVersion || !d.handles.isEmpty) && !s.isAtMarker '-' then none
  let (node, s) ← root (8 * length + 16) (d.handles ++ standardHandles) s
  if isFinished s length then return node else none

end CertRenewal.Yaml
