import CertRenewal.Yaml.Document
import CertRenewal.Yaml.Scalar

/-!
# Documents in block style

A document in block style shows its structure by lines and columns alone. Here such documents are
laid out: `Document.text` is what is written, `Document.node` the tree that it stands for. What the
style leaves open is chosen freely: the depth of every indentation, blanks, comments and empty
lines, the quotes of a scalar, whether a value stands behind its key or below it, and the marks of a
document.

Layouts cannot be ill-formed. Depths are counted from the block around, scalars and comments carry
what YAML asks of their characters, and a mapping or sequence that belongs to a key begins a line.
-/

namespace CertRenewal.Yaml

/-! ## Between tokens -/

inductive Blank where
  | space
  | tab
  deriving DecidableEq, Repr

def Blank.char : Blank → Char
  | space => ' '
  | tab => '\t'

/-- A comment behind its mark, which goes on to the end of the line. -/
structure Comment where
  text : List Char
  isLine : text.all fun c => isAllowed c && !isBreak c

/-- A comment with its mark, if there is one. -/
def commentText : Option Comment → List Char
  | none => []
  | some comment => '#' :: comment.text

/-- What stands behind a token in its line. Blanks part a comment from the token. -/
structure Trail where
  blanks : List Blank
  comment : Option Comment
  isApart : comment.isSome → blanks ≠ []

def Trail.text (t : Trail) : List Char := t.blanks.map Blank.char ++ commentText t.comment

/-- A line without a token. Tabs may not indent it. -/
structure BlankLine where
  indent : Nat
  comment : Option Comment

def BlankLine.text (l : BlankLine) : List Char := indentation l.indent ++ commentText l.comment

def blankText (lines : List BlankLine) : List Char := lines.flatMap fun l => l.text ++ ['\n']

/-- What stands between a token and the line of the next one. -/
structure Lines where
  trail : Trail
  blank : List BlankLine

def Lines.text (l : Lines) : List Char := l.trail.text ++ '\n' :: blankText l.blank

inductive Ending where
  /-- The text ends in the line of the token. -/
  | inLine (trail : Trail)
  /-- It ends in a later line. -/
  | later (lines : Lines) (last : BlankLine)

def Ending.text : Ending → List Char
  | inLine trail => trail.text
  | later lines last => lines.text ++ last.text

/-! ## Scalars -/

def isWordChar (c : Char) : Bool :=
  isAllowed c && !isBlank c && !isBreak c && !(['\x22', '\x27', '\\', '\ufeff'].contains c)

/-- Whether a text is a word: several visible characters of which the first has no meaning of its
own, and the last is no colon. -/
def isWord (s : List Char) : Bool :=
  match s with
  | [] => false
  | c :: _ => s.all isWordChar && !('.' :: indicators).contains c && s.getLast? != some ':'

/-- A text that a scalar can hold with or without quotes. -/
structure Word where
  text : List Char
  wellFormed : isWord text

inductive Quotes where
  | plain
  | single
  | double
  deriving DecidableEq, Repr

def Quotes.mark : Quotes → List Char
  | plain => []
  | single => ['\x27']
  | double => ['\x22']

/-- A scalar on one line. -/
structure Scalar where
  quotes : Quotes
  word : Word

namespace Scalar

def text (s : Scalar) : List Char := s.quotes.mark ++ (s.word.text ++ s.quotes.mark)

def node (s : Scalar) : Node := .scalar none none (s.quotes == .plain) s.word.text

end Scalar

/-- A key of a mapping. YAML allows 1024 characters in front of the colon. -/
structure Key where
  scalar : Scalar
  isShort : scalar.text.length ≤ 1024

/-- What stands on one line: a scalar, or the brackets of an empty sequence or mapping. -/
inductive Leaf where
  | scalar (scalar : Scalar)
  | brackets
  | braces

namespace Leaf

def text : Leaf → List Char
  | scalar s => s.text
  | brackets => ['[', ']']
  | braces => ['\x7b', '\x7d']

def node : Leaf → Node
  | scalar s => s.node
  | brackets => .sequence none []
  | braces => .mapping none []

end Leaf

/-! ## Blocks -/

mutual

/-- What begins at a place of its own. -/
inductive Content where
  | leaf (leaf : Leaf)
  | sequence (items : Items)
  | mapping (entries : Entries)

/-- The items of a sequence, each behind its dash, which one space more than given parts from it. -/
inductive Items where
  | last (spaces : Nat) (content : Content)
  | cons (spaces : Nat) (content : Content) (lines : Lines) (more : Items)

inductive Entries where
  | last (key : Key) (value : Value)
  | cons (key : Key) (value : Value) (lines : Lines) (more : Entries)

/-- What stands behind the colon of a key: nothing, a leaf in the same line, or content on a line of
its own, which is so much deeper than it must be. -/
inductive Value where
  | nothing
  | beside (blank : Blank) (more : List Blank) (leaf : Leaf)
  | under (lines : Lines) (deeper : Nat) (content : Content)

end

/-- The column of content under a key in a column. A sequence may have its dashes in the column of
the key. -/
def Content.columnUnder (column deeper : Nat) : Content → Nat
  | .sequence _ => column + deeper
  | _ => column + deeper + 1

mutual

def Content.text (column : Nat) : Content → List Char
  | .leaf leaf => leaf.text
  | .sequence items => items.text column
  | .mapping entries => entries.text column

def Items.text (column : Nat) : Items → List Char
  | .last spaces content =>
    '-' :: ' ' :: (indentation spaces ++ content.text (column + spaces + 2))
  | .cons spaces content lines more =>
    '-' :: ' ' :: (indentation spaces ++ (content.text (column + spaces + 2) ++
      (lines.text ++ (indentation column ++ more.text column))))

def Entries.text (column : Nat) : Entries → List Char
  | .last key value => key.scalar.text ++ ':' :: value.text column
  | .cons key value lines more =>
    key.scalar.text ++ ':' :: (value.text column ++
      (lines.text ++ (indentation column ++ more.text column)))

def Value.text (column : Nat) : Value → List Char
  | .nothing => []
  | .beside blank more leaf => blank.char :: (more.map Blank.char ++ leaf.text)
  | .under lines deeper content =>
    lines.text ++ (indentation (content.columnUnder column deeper) ++
      content.text (content.columnUnder column deeper))

end

mutual

def Content.node : Content → Node
  | .leaf leaf => leaf.node
  | .sequence items => .sequence none items.nodes
  | .mapping entries => .mapping none entries.nodes

def Items.nodes : Items → List Node
  | .last _ content => [content.node]
  | .cons _ content _ more => content.node :: more.nodes

def Entries.nodes : Entries → List (Node × Node)
  | .last key value => [(key.scalar.node, value.node)]
  | .cons key value _ more => (key.scalar.node, value.node) :: more.nodes

def Value.node : Value → Node
  | .nothing => .missing .empty
  | .beside _ _ leaf => leaf.node
  | .under _ _ content => content.node

end

/-! ## Documents -/

/-- A document whose root is a mapping. -/
structure Document where
  /-- The lines in front. -/
  head : List BlankLine
  /-- What follows the mark that begins the document, if there is one. -/
  beginMark : Option Lines
  /-- The column of the keys. -/
  margin : Nat
  entries : Entries
  /-- What stands in front of the mark that ends the document, if there is one. -/
  endMark : Option Lines
  ending : Ending

namespace Document

variable (d : Document)

/-- The text behind the entries. -/
def tail : List Char :=
  match d.endMark with
  | none => d.ending.text
  | some lines => lines.text ++ '.' :: '.' :: '.' :: d.ending.text

/-- The text behind the lines in front and the mark. -/
def body : List Char := indentation d.margin ++ (d.entries.text d.margin ++ d.tail)

def text : List Char :=
  blankText d.head ++
    match d.beginMark with
    | none => d.body
    | some lines => '-' :: '-' :: '-' :: (lines.text ++ d.body)

def node : Node := .mapping none d.entries.nodes

end Document

end CertRenewal.Yaml
