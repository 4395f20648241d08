import CertRenewal.Text.Integer
import CertRenewal.Yaml.PlainText

/-!
# Block scalars

A block scalar is the indented lines after a bar, as they are, or after an angle bracket, with line
breaks folded between lines that are not indented further. Marks after the bar or bracket give the
indentation and say what becomes of the line breaks at the end.
-/

namespace CertRenewal.Yaml

/-- What becomes of the line breaks at the end: the first one is kept, or none, or all. -/
inductive Chomping where
  | clip
  | strip
  | keep
  deriving DecidableEq, Repr

structure BlockMarks where
  chomping : Chomping
  /-- How much deeper than the block around it the scalar is indented. -/
  deeper : Option Nat
  deriving DecidableEq, Repr

def chomping? : Char → Option Chomping
  | '+' => some .keep
  | '-' => some .strip
  | _ => none

/-- An indentation from one to nine. -/
def deeper? (c : Char) : Option Nat := (Text.digit? c).filter (0 < ·)

/-- Reads the marks, which may stand in either order. -/
def blockMarks (s : List Char) : Option (BlockMarks × List Char) :=
  match s with
  | [] => some (⟨.clip, none⟩, [])
  | c :: rest =>
    match chomping? c with
    | some chomping =>
      match rest with
      | d :: rest' =>
        if Text.isDigit d then (deeper? d).map fun n => (⟨chomping, some n⟩, rest')
        else some (⟨chomping, none⟩, rest)
      | [] => some (⟨chomping, none⟩, [])
    | none =>
      if Text.isDigit c then
        (deeper? c).map fun n =>
          match rest with
          | d :: rest' =>
            match chomping? d with
            | some chomping => (⟨chomping, some n⟩, rest')
            | none => (⟨.clip, some n⟩, rest)
          | [] => (⟨.clip, some n⟩, [])
      else some (⟨.clip, none⟩, s)

def lineEnd (s : List Char) : Option (List Char) :=
  let s := s.dropWhile isBlank
  let s := if s.head? = some '#' then s.dropWhile (!isBreak ·) else s
  match s with
  | [] => some []
  | c :: rest => if isBreak c then some rest else none

/-- What has been read of a block scalar, in reverse. -/
structure BlockState where
  text : List Char
  /-- The line break after the last line with text. -/
  last : Option Char
  /-- Those of the empty lines after it. -/
  more : List Char
  /-- Whether the last line with text starts with a blank. -/
  blankLed : Bool
  /-- The column of the text, when it is known. -/
  indent : Option Nat
  /-- The widest of the empty lines. -/
  widest : Nat
  deriving DecidableEq, Repr

namespace BlockState

/-- The state with an empty line that is so wide. -/
def addEmptyLine (c : Char) (width : Nat) (b : BlockState) : BlockState :=
  { b with more := c :: b.more, widest := max b.widest width }

/-- The state with the line breaks before a line that starts with `c` put to the text. -/
def startLine (folded : Bool) (indent : Nat) (c : Char) (b : BlockState) : BlockState :=
  let text :=
    if folded && b.last == some '\n' && !b.blankLed && !isBlank c then
      if b.more.isEmpty then ' ' :: b.text else b.more ++ b.text
    else b.more ++ b.last.toList ++ b.text
  ⟨c :: text, none, [], isBlank c, some indent, 0⟩

/-- The text, with the line breaks at the end that chomping leaves. -/
def finish (chomping : Chomping) (b : BlockState) : List Char :=
  let last := if chomping = .strip then [] else b.last.toList
  let more := if chomping = .keep then b.more else []
  (more ++ last ++ b.text).reverse

end BlockState

/-- Reads on in a block scalar, whose text stands in a column of at least `least`. `inLine` says
that a line with text has begun. A tab must not stand in the place of indentation. -/
def blockFrom (folded : Bool) (least : Nat) (b : BlockState) (inLine : Bool) (p : Place) :
    List Char → Option (BlockState × Place × List Char)
  | [] => some (b, p, [])
  | c :: cs =>
    if inLine then
      if isBreak c then blockFrom folded least { b with last := some c } false p.nextLine cs
      else blockFrom folded least { b with text := c :: b.text } true p.step cs
    else
      let isIndentation : Bool := (b.indent.map fun n => decide (p.column < n)).getD true
      if c = ' ' && isIndentation then blockFrom folded least b false p.step cs
      else if c = '\t' && isIndentation then none
      else if isBreak c then
        blockFrom folded least (b.addEmptyLine c p.column) false p.nextLine cs
      else
        let indent := b.indent.getD (max (max b.widest p.column) least)
        if p.column = indent then
          blockFrom folded least (b.startLine folded indent c) true p.step cs
        else some (b, p, c :: cs)

/-- Reads a block scalar from its bar or bracket, in a block of indentation `parent`, which is -1
outside of any. -/
def blockText (parent : Int) (s : Cursor) : Option (List Char × Cursor) := do
  let (marks, rest) ← blockMarks (s.rest.drop 1)
  let rest ← lineEnd rest
  let indent := marks.deeper.map fun n => (max parent 0).toNat + n
  let least := (max (parent + 1) 1).toNat
  let (b, place, rest) ←
    blockFrom (s.rest.head? = some '>') least ⟨[], none, [], false, indent, 0⟩ false
      s.place.nextLine rest
  return (b.finish marks.chomping, { s with place := place.withKey true, rest := rest })

end CertRenewal.Yaml
