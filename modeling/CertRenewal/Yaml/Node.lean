import CertRenewal.Yaml.Properties

/-!
# YAML documents as trees

A document is a tree of scalars, sequences and mappings. A node with an anchor has a slot, and an
alias names a slot; of several nodes with one slot the last one fills it.
-/

namespace CertRenewal.Yaml

inductive Node where
  /-- A text. `plain` says that it is written without quotes. -/
  | scalar (slot : Option Nat) (tag : Option (List Char)) (plain : Bool) (text : List Char)
  | sequence (slot : Option Nat) (items : List Node)
  | mapping (slot : Option Nat) (entries : List (Node × Node))
  | alias (slot : Nat)
  deriving Repr

namespace Node

/-- The node of a value that is not there. -/
def missing (p : Properties) : Node := .scalar p.slot p.tag true []

/-- A node with properties. An alias has none. -/
def withProperties (p : Properties) : Node → Option Node
  | .scalar _ _ plain text => some (.scalar p.slot p.tag plain text)
  | .sequence _ items => some (.sequence p.slot items)
  | .mapping _ entries => some (.mapping p.slot entries)
  | .alias slot => if p.isEmpty then some (.alias slot) else none

def slot? : Node → Option Nat
  | .scalar slot _ _ _ | .sequence slot _ | .mapping slot _ => slot
  | .alias _ => none

mutual

/-- The last node in the order of the text that has a slot, or `found` when there is none. -/
def lastIn (slot : Nat) (found : Option Node) (node : Node) : Option Node :=
  let found := if node.slot? = some slot then some node else found
  match node with
  | .scalar _ _ _ _ => found
  | .sequence _ items => lastInItems slot found items
  | .mapping _ entries => lastInEntries slot found entries
  | .alias _ => found

def lastInItems (slot : Nat) (found : Option Node) : List Node → Option Node
  | [] => found
  | item :: rest => lastInItems slot (lastIn slot found item) rest

def lastInEntries (slot : Nat) (found : Option Node) : List (Node × Node) → Option Node
  | [] => found
  | (key, value) :: rest => lastInEntries slot (lastIn slot (lastIn slot found key) value) rest

end

/-- What a node of a document stands for: the node itself, or the one that an alias refers to. -/
def resolve (document : Node) : Node → Node
  | .alias slot => (lastIn slot none document).getD (missing .empty)
  | node => node

end Node

end CertRenewal.Yaml
