/-!
# Cutting text at a separator

`splitOn` cuts a text at every occurrence of a separator, found from the left without overlap;
`cut` cuts it at the first one only. Joining the pieces of `splitOn` with the separator gives the
text back, so neither loses a character.
-/

namespace CertRenewal.Text

/-- What follows `pre` in `s`, when `s` starts with `pre`. -/
def dropPrefix? [BEq α] (pre s : List α) : Option (List α) :=
  match pre, s with
  | [], s => some s
  | _ :: _, [] => none
  | p :: ps, c :: cs => if p == c then dropPrefix? ps cs else none

/-- Puts a character in front of the first piece. -/
def consHead (c : α) : List (List α) → List (List α)
  | [] => [[c]]
  | piece :: rest => (c :: piece) :: rest

/-- The pieces of a text between the occurrences of a separator `first :: others`. The argument
`skip` counts the characters of an occurrence that are still to be passed over. -/
def splitOnFrom [BEq α] (first : α) (others : List α) (skip : Nat) : List α → List (List α)
  | [] => [[]]
  | c :: cs =>
    match skip with
    | k + 1 => splitOnFrom first others k cs
    | 0 =>
      if (first :: others).isPrefixOf (c :: cs) then
        [] :: splitOnFrom first others others.length cs
      else consHead c (splitOnFrom first others 0 cs)

/-- The pieces of a text between the occurrences of a separator; an empty separator cuts
nothing. -/
def splitOn [BEq α] (separator s : List α) : List (List α) :=
  match separator with
  | [] => [s]
  | first :: others => splitOnFrom first others 0 s

def cut [BEq α] (c : α) : List α → Option (List α × List α)
  | [] => none
  | d :: ds =>
    if d == c then some ([], ds)
    else (cut c ds).map fun (before, after) => (d :: before, after)

def join (separator : List α) : List (List α) → List α
  | [] => []
  | [piece] => piece
  | piece :: rest => piece ++ separator ++ join separator rest

def joinStrings (separator : String) (pieces : List String) : String :=
  String.ofList (join separator.toList (pieces.map String.toList))

end CertRenewal.Text
