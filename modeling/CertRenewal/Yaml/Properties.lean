import CertRenewal.Json.Parser
import CertRenewal.Text.Utf8
import CertRenewal.Yaml.Cursor

/-!
# Anchors, tags and directives

A node may be given an anchor, by which aliases refer to it, and a tag, which names its type. The
names of tags are shortened by handles; directives in front of a document declare handles and the
version of YAML.
-/

namespace CertRenewal.Yaml

/-- The characters of the names of anchors and handles. -/
def isNameChar (c : Char) : Bool :=
  c.isAlphanum || c = '_' || c = '-'

/-- Passes over characters of a line. -/
def Cursor.skip (n : Nat) (s : Cursor) : Cursor :=
  { s with
    place := { s.place with column := s.place.column + n, keyAllowed := false }
    rest := s.rest.drop n }

/-- Reads the name behind the mark of an anchor or alias. -/
def anchorName (s : Cursor) : Option (List Char × Cursor) :=
  let name := (s.rest.drop 1).takeWhile isNameChar
  let s := s.skip (name.length + 1)
  if !name.isEmpty && (isBlankOrEnd s.rest.head? || s.isAmong "?:,]\x7d%@`".toList) then
    some (name, s)
  else none

/-- Reads an anchor. It takes the slot whose number is the number of names that are known. -/
def anchor (s : Cursor) : Option (Nat × Cursor) := do
  let (name, s) ← anchorName s
  let slot := s.anchors.length
  return (slot, { s with anchors := (name, slot) :: s.anchors.filter (·.1 != name) })

/-! ## Tags -/

abbrev Handles := List (List Char × List Char)

/-- The handles that need no declaration. -/
def standardHandles : Handles :=
  [("!".toList, "!".toList), ("!!".toList, "tag:yaml.org,2002:".toList)]

def nullTag : List Char := "tag:yaml.org,2002:null".toList

/-- The characters of a tag, save those of brackets and the comma. -/
def isTagChar (c : Char) : Bool := isNameChar c || ";/?:@&=+$.!~*'()".toList.contains c

def escapedBytes : Nat → List Char → Option (List UInt8 × List Char)
  | 0, rest => some ([], rest)
  | n + 1, '%' :: a :: b :: rest => do
    let byte := (← Json.Parser.hexDigit? a) * 16 + (← Json.Parser.hexDigit? b)
    let (bytes, rest) ← escapedBytes n rest
    return (byte.toUInt8 :: bytes, rest)
  | _ + 1, _ => none

/-- The number of bytes of a character that starts with a byte. -/
def byteWidth? (b : UInt8) : Option Nat :=
  if b < 0x80 then some 1
  else if 0xC0 ≤ b && b < 0xE0 then some 2
  else if 0xE0 ≤ b && b < 0xF0 then some 3
  else if 0xF0 ≤ b && b < 0xF8 then some 4
  else none

/-- Reads the escapes of one character. -/
def escapedChar (s : List Char) : Option (List Char × List Char) := do
  let (first, _) ← escapedBytes 1 s
  let width ← byteWidth? (first.headD 0)
  let (bytes, rest) ← escapedBytes width s
  if (bytes.drop 1).all Text.Utf8.isTail then return (Text.Utf8.decodeLossy bytes, rest) else none

/-- Reads the characters of a tag. `more` are characters that are allowed besides the usual ones.
Every step takes a character, so that a fuel of the length of the text is enough. -/
def tagChars (more : List Char) : Nat → List Char → Option (List Char × List Char)
  | 0, s => some ([], s)
  | fuel + 1, s =>
    match s with
    | [] => some ([], [])
    | c :: rest =>
      if c = '%' then do
        let (chars, rest) ← escapedChar s
        let (text, rest) ← tagChars more fuel rest
        return (chars ++ text, rest)
      else if isTagChar c || more.contains c then
        (tagChars more fuel rest).map fun (text, rest) => (c :: text, rest)
      else some ([], s)

/-- Reads a handle: a mark of exclamation, and another one after a name. The second one may be
missing. -/
def handle (s : List Char) : List Char × List Char :=
  let name := (s.drop 1).takeWhile isNameChar
  match s.drop (name.length + 1) with
  | '!' :: rest => ('!' :: (name ++ ['!']), rest)
  | rest => ('!' :: name, rest)

def tagText (handles : Handles) (s : List Char) : Option (List Char × List Char) :=
  match s with
  | '!' :: '<' :: rest => do
    let (text, rest) ← tagChars [',', '[', ']'] rest.length rest
    match rest with
    | '>' :: rest => if text.isEmpty then none else some (text, rest)
    | _ => none
  | _ =>
    let (name, rest) := handle s
    if 2 ≤ name.length && name.getLast? = some '!' then do
      let (text, rest) ← tagChars [] rest.length rest
      if text.isEmpty then none else return ((← handles.lookup name) ++ text, rest)
    else do
      let (text, rest) ← tagChars [] rest.length rest
      let suffix := name.drop 1 ++ text
      if suffix.isEmpty then return (['!'], rest)
      else return ((← handles.lookup ['!']) ++ suffix, rest)

/-- Reads a tag, behind which a blank must follow, or a comma inside brackets. -/
def tag (handles : Handles) (flow : Bool) (s : Cursor) : Option (List Char × Cursor) := do
  let (text, rest) ← tagText handles s.rest
  let s := s.skip (s.rest.length - rest.length)
  if isBlankOrEnd s.rest.head? || (flow && s.isAmong [',']) then return (text, s) else none

structure Properties where
  slot : Option Nat
  tag : Option (List Char)
  deriving DecidableEq, Repr

namespace Properties

def empty : Properties := ⟨none, none⟩

def isEmpty (p : Properties) : Bool := p.slot.isNone && p.tag.isNone

/-- The properties of both, unless they have an anchor or a tag each. -/
def merge (p q : Properties) : Option Properties :=
  if (p.slot.isSome && q.slot.isSome) || (p.tag.isSome && q.tag.isSome) then none
  else some ⟨p.slot.orElse fun _ => q.slot, p.tag.orElse fun _ => q.tag⟩

end Properties

/-- Reads one anchor or tag, if there is one, and walks to the next token. -/
def property (handles : Handles) (flow : Bool) (s : Cursor) : Option (Properties × Cursor) :=
  if s.isAmong ['&'] then
    (anchor s).map fun (slot, s) => (⟨some slot, none⟩, s.nextToken flow)
  else if s.isAmong ['!'] then
    (tag handles flow s).map fun (text, s) => (⟨none, some text⟩, s.nextToken flow)
  else some (.empty, s)

/-- Reads the anchor and tag before a node, in either order, and walks to the next token. Outside of
brackets both must stand on one line; a second one on another line is left. -/
def properties (handles : Handles) (flow : Bool) (s : Cursor) : Option (Properties × Cursor) := do
  let line := s.place.line
  let (p, s) ← property handles flow s
  if p.isEmpty || (!flow && s.place.line != line) then return (p, s)
  else
    let (q, s) ← property handles flow s
    return (← p.merge q, s)

/-! ## Directives -/

def versionNumber (s : List Char) : Option (Nat × List Char) :=
  let digits := s.takeWhile Text.isDigit
  if digits.isEmpty || 9 < digits.length then none
  else some (Text.natOfDigits digits, s.dropWhile Text.isDigit)

/-- Reads the version of YAML, which must be 1.1 or 1.2. -/
def version (s : List Char) : Option (List Char) := do
  let (major, rest) ← versionNumber s
  match rest with
  | '.' :: rest =>
    let (minor, rest) ← versionNumber rest
    if major = 1 && (minor = 1 || minor = 2) then return rest else none
  | _ => none

def declaration (s : List Char) : Option ((List Char × List Char) × List Char) := do
  let (name, rest) := handle s
  if s.head? ≠ some '!' || name.getLast? ≠ some '!' then none
  if !(rest.head?.map isBlank).getD false then none
  let rest := rest.dropWhile isBlank
  let (text, rest) ← tagChars [',', '[', ']'] rest.length rest
  if text.isEmpty || !isBlankOrEnd rest.head? then none else return ((name, text), rest)

/-- What directives have declared. -/
structure Directives where
  hasVersion : Bool
  handles : Handles
  deriving DecidableEq, Repr

/-- Reads one directive from its percent sign. Nothing may be declared twice. -/
def directive (d : Directives) (s : List Char) : Option (Directives × List Char) := do
  let name := (s.drop 1).takeWhile isNameChar
  let rest := s.drop (name.length + 1)
  if !isBlankOrEnd rest.head? then none
  let rest := rest.dropWhile isBlank
  if name = "YAML".toList then
    let rest ← version rest
    if d.hasVersion then none else return ({ d with hasVersion := true }, rest)
  else if name = "TAG".toList then
    let (entry, rest) ← declaration rest
    if (d.handles.lookup entry.1).isSome then none
    else return ({ d with handles := entry :: d.handles }, rest)
  else none

end CertRenewal.Yaml
