import CertRenewal.Yaml.BlockText
import CertRenewal.Yaml.Node
import CertRenewal.Yaml.QuotedText

/-!
# Reading nodes

Structure is given by brackets or by indentation. A node lies in a block of some indentation and
must stand further to the right; a sequence that is the value of a mapping may have its dashes in
the column of the keys. What begins and ends in one line and is followed by a colon is the key of a
mapping that begins there.

The readers take a fuel. Each of them that calls another has passed over a character since the last
few calls, so that a fuel of a few times the length of the text is enough.
-/

namespace CertRenewal.Yaml

def aliasNode (s : Cursor) : Option (Node × Cursor) := do
  let (name, s) ← anchorName s
  return (.alias (← s.anchors.lookup name), s)

mutual

/-- Reads what is neither a block scalar nor structured by indentation: an alias, a quoted or plain
scalar, or something in brackets. `indent` is how far a line that continues a plain scalar must be
indented. -/
def inlineNode (fuel : Nat) (handles : Handles) (flow : Bool) (indent : Nat) (s : Cursor) :
    Option (Node × Cursor) :=
  match fuel with
  | 0 => none
  | fuel + 1 =>
    match s.rest with
    | '*' :: _ => aliasNode s
    | '[' :: _ =>
      (flowItems fuel handles indent true (s.advance true)).map fun (items, s) =>
        (.sequence none items, s)
    | '{' :: _ =>
      (flowEntries fuel handles indent true (s.advance true)).map fun (entries, s) =>
        (.mapping none entries, s)
    | '\x22' :: _ => (quotedText true s).map fun (text, s) => (.scalar none none false text, s)
    | '\x27' :: _ => (quotedText false s).map fun (text, s) => (.scalar none none false text, s)
    | rest =>
      if startsPlain flow rest then
        (plainText flow indent s).map fun (text, s) => (.scalar none none true text, s)
      else none

/-- Reads a node inside brackets. Only one with properties may have no content. -/
def flowNode (fuel : Nat) (handles : Handles) (indent : Nat) (s : Cursor) :
    Option (Node × Cursor) :=
  match fuel with
  | 0 => none
  | fuel + 1 => do
    let (p, s) ← properties handles true s
    if s.atEnd then none
    else if !p.isEmpty && s.isAmong [',', ']', '}', ':', '?'] then return (.missing p, s)
    else
      let (node, s) ← inlineNode fuel handles true indent s
      return (← node.withProperties p, s)

/-- Reads the value of a pair inside brackets, whose colon may be missing. -/
def flowValue (fuel : Nat) (handles : Handles) (indent : Nat) (close : Char) (s : Cursor) :
    Option (Node × Cursor) :=
  match fuel with
  | 0 => none
  | fuel + 1 =>
    if s.isAmong [':'] then
      let s := (s.advance false).nextToken true
      if s.isAmong [',', close] then some (.missing .empty, s) else flowNode fuel handles indent s
    else some (.missing .empty, s)

/-- Reads the items of a sequence in brackets up to its end. `first` says that no item has been read
yet. An item may be a pair, with a key that a question mark introduces or that ends in its line. -/
def flowItems (fuel : Nat) (handles : Handles) (indent : Nat) (first : Bool) (s : Cursor) :
    Option (List Node × Cursor) :=
  match fuel with
  | 0 => none
  | fuel + 1 => do
    let s := s.nextToken true
    if s.isAmong [']'] then return ([], s.advance false)
    else if !first && !s.isAmong [','] then none
    else
      let s := if first then s else (s.advance true).nextToken true
      if s.isAmong [']'] then return ([], s.advance false)
      else
        let start := s.place
        let (item, s) ←
          if s.isAmong ['?'] then do
            let (key, s) ← flowExplicitKey fuel handles indent ((s.advance false).nextToken true)
            let (value, s) ← flowValue fuel handles indent ']' (s.nextToken true)
            some (.mapping none [(key, value)], s)
          else do
            let (node, s) ← flowNode fuel handles indent s
            let s := s.nextToken true
            if s.isAmong [':'] then
              if s.endsKeyFrom start then
                (flowValue fuel handles indent ']' s).map fun (value, s) =>
                  (.mapping none [(node, value)], s)
              else none
            else some (node, s)
        let (more, s) ← flowItems fuel handles indent false s
        return (item :: more, s)

/-- Reads the key behind a question mark in a sequence. A mark that stands in the place of the key
is passed over, unless it ends the sequence. -/
def flowExplicitKey (fuel : Nat) (handles : Handles) (indent : Nat) (s : Cursor) :
    Option (Node × Cursor) :=
  match fuel with
  | 0 => none
  | fuel + 1 =>
    if s.isAmong [':', ','] then some (.missing .empty, s.advance (s.isAmong [',']))
    else flowNode fuel handles indent s

/-- Reads the entries of a mapping in brackets up to its end. -/
def flowEntries (fuel : Nat) (handles : Handles) (indent : Nat) (first : Bool) (s : Cursor) :
    Option (List (Node × Node) × Cursor) :=
  match fuel with
  | 0 => none
  | fuel + 1 => do
    let s := s.nextToken true
    if s.isAmong ['}'] then return ([], s.advance false)
    else if !first && !s.isAmong [','] then none
    else
      let s := if first then s else (s.advance true).nextToken true
      if s.isAmong ['}'] then return ([], s.advance false)
      else
        let start := s.place
        let (key, value, s) ←
          if s.isAmong ['?'] then do
            let s := (s.advance false).nextToken true
            let (key, s) ←
              if s.isAmong [':', ',', '}'] then some (.missing .empty, s)
              else flowNode fuel handles indent s
            let (value, s) ← flowValue fuel handles indent '}' (s.nextToken true)
            some (key, value, s)
          else do
            let (key, s) ← flowNode fuel handles indent s
            let s := s.nextToken true
            if s.isAmong [':'] && !s.endsKeyFrom start then none
            else
              let (value, s) ← flowValue fuel handles indent '}' s
              some (key, value, s)
        let (more, s) ← flowEntries fuel handles indent false s
        return ((key, value) :: more, s)

end

/-- Reads what may be a key in a block: properties on one line, and then a node that is not
structured by indentation, or nothing before a colon. -/
def blockKey (fuel : Nat) (handles : Handles) (indent : Nat) (s : Cursor) :
    Option (Node × Cursor) := do
  let line := s.place.line
  let (p, s) ← properties handles false s
  if s.place.line != line || s.atEnd then none
  else if !p.isEmpty && s.isAhead ':' then return (.missing p, s)
  else
    let (node, s) ← inlineNode fuel handles false indent s
    return (← node.withProperties p, s.nextToken false)

def blockScalar (parent : Int) (p : Properties) (s : Cursor) : Option (Node × Cursor) :=
  (blockText parent s).map fun (text, s) => (.scalar p.slot p.tag false text, s.nextToken false)

/-- Whether the content of a node in a block of indentation `parent` stands here: further to the
right, or in the column of the block when it is a block scalar, or a dash where `dashes` allows. -/
def isInside (parent : Int) (dashes : Bool) (s : Cursor) : Bool :=
  !s.atEnd &&
    (parent < s.place.column ||
      (parent == s.place.column && (s.isAmong ['|', '>'] || (dashes && s.isAhead '-'))))

mutual

/-- Reads a node in a block of indentation `parent`, with the properties that earlier lines have
given it. `dashes` says that dashes may stand in the column of the block. -/
def blockNode (fuel : Nat) (handles : Handles) (parent : Int) (dashes : Bool) (outer : Properties)
    (s : Cursor) : Option (Node × Cursor) :=
  match fuel with
  | 0 => none
  | fuel + 1 =>
    if !isInside parent dashes s then some (.missing outer, s)
    else if s.isAhead '-' then
      if s.place.keyAllowed then do
        let column := s.place.column
        let (items, s) ← blockItems fuel handles column s
        if parent == column || s.atEnd || s.place.column < column then
          return (.sequence outer.slot items, s)
        else none
      else none
    else if s.isAhead '?' then
      if s.place.keyAllowed then
        (blockEntries fuel handles s.place.column s).map fun (entries, s) =>
          (.mapping outer.slot entries, s)
      else none
    else do
      let start := s.place
      let (inner, after) ← properties handles false s
      if !inner.isEmpty && (after.place.line != start.line || after.atEnd) then
        blockNode fuel handles parent dashes (← outer.merge inner) after
      else if after.isAmong ['|', '>'] then blockScalar parent (← outer.merge inner) after
      else
        let (node, s) ← blockKey fuel handles (parent + 1).toNat s
        if s.isAhead ':' && s.place.line == start.line then
          if s.endsKeyFrom start then
            let (value, s) ← blockValue fuel handles start.column false s
            let (more, s) ← blockEntries fuel handles start.column s
            return (.mapping outer.slot ((node, value) :: more), s)
          else none
        else if outer.isEmpty then return (node, s)
        else return (← node.withProperties (← outer.merge inner), s)

/-- Reads the value behind a colon in a mapping whose keys stand in a column. -/
def blockValue (fuel : Nat) (handles : Handles) (column : Nat) (keyAllowed : Bool) (s : Cursor) :
    Option (Node × Cursor) :=
  match fuel with
  | 0 => none
  | fuel + 1 => blockNode fuel handles column true .empty ((s.advance keyAllowed).nextToken false)

/-- Reads the entries of a mapping whose keys stand in a column, up to a line that stands further to
the left. -/
def blockEntries (fuel : Nat) (handles : Handles) (column : Nat) (s : Cursor) :
    Option (List (Node × Node) × Cursor) :=
  match fuel with
  | 0 => none
  | fuel + 1 =>
    if s.atEnd || s.place.column < column then some ([], s)
    else if s.place.column != column then none
    else if s.isAhead '?' then
      if s.place.keyAllowed then do
        let (key, s) ← blockValue fuel handles column true s
        let (value, s) ←
          if s.isAhead ':' && s.place.column == column && s.place.keyAllowed then
            blockValue fuel handles column true s
          else some (.missing .empty, s)
        let (more, s) ← blockEntries fuel handles column s
        return ((key, value) :: more, s)
      else none
    else do
      let start := s.place
      let (key, s) ← blockKey fuel handles (column + 1) s
      if s.isAhead ':' && s.endsKeyFrom start then
        let (value, s) ← blockValue fuel handles column false s
        let (more, s) ← blockEntries fuel handles column s
        return ((key, value) :: more, s)
      else none

/-- Reads the items of a sequence whose dashes stand in a column. -/
def blockItems (fuel : Nat) (handles : Handles) (column : Nat) (s : Cursor) :
    Option (List Node × Cursor) :=
  match fuel with
  | 0 => none
  | fuel + 1 =>
    if !s.atEnd && s.isAhead '-' && s.place.column == column && s.place.keyAllowed then do
      let (item, s) ← blockNode fuel handles column false .empty ((s.advance true).nextToken false)
      let (more, s) ← blockItems fuel handles column s
      return (item :: more, s)
    else some ([], s)

end

end CertRenewal.Yaml
