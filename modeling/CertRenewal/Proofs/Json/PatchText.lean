import CertRenewal.Json.Patch
import Mathlib.Data.List.Basic

/-!
# Reading a patch

What a server makes of the document of a patch. `Path.ofText?`, `Operation.ofJson?` and
`Patch.ofJson?` read what `Path.text`, `Operation.toJson` and `Patch.toJson` write, and get back
what was written: `Path.ofText?_text`, `Operation.ofJson?_toJson` and `Patch.ofJson?_toJson`.
-/

namespace CertRenewal

/-! ## Texts in pieces -/

namespace Text

variable {α : Type} [BEq α] [LawfulBEq α]

/-- The pieces of a text behind which the separator comes once more. -/
theorem splitOnFrom_append_cons {c : α} {piece : List α} (h : c ∉ piece) (rest : List α) :
    splitOnFrom c [] 0 (piece ++ c :: rest) = piece :: splitOnFrom c [] 0 rest := by
  induction piece with
  | nil => simp [splitOnFrom]
  | cons d piece ih =>
    obtain ⟨hd, hpiece⟩ := not_or.mp (mt List.mem_cons.mpr h)
    rw [List.cons_append, splitOnFrom, if_neg (by simpa using hd), ih hpiece, consHead]

/-- A text without the separator is one piece. -/
theorem splitOnFrom_eq_singleton {c : α} {piece : List α} (h : c ∉ piece) :
    splitOnFrom c [] 0 piece = [piece] := by
  induction piece with
  | nil => rfl
  | cons d piece ih =>
    obtain ⟨hd, hpiece⟩ := not_or.mp (mt List.mem_cons.mpr h)
    rw [splitOnFrom, if_neg (by simpa using hd), ih hpiece, consHead]

/-- Pieces, each behind a separator, are what the text behind the first separator is cut into. -/
theorem splitOn_flatMap {c : α} {piece : List α} {pieces : List (List α)} (hpiece : c ∉ piece)
    (hpieces : ∀ p ∈ pieces, c ∉ p) :
    splitOn [c] (piece ++ pieces.flatMap (c :: ·)) = piece :: pieces := by
  induction pieces generalizing piece with
  | nil =>
    rw [List.flatMap_nil, List.append_nil]
    exact splitOnFrom_eq_singleton hpiece
  | cons next more ih =>
    obtain ⟨hnext, hmore⟩ := List.forall_mem_cons.mp hpieces
    rw [List.flatMap_cons, List.cons_append]
    exact (splitOnFrom_append_cons hpiece _).trans (congrArg (piece :: ·) (ih hnext hmore))

end Text

namespace Json

/-! ## Paths -/

def Path.unescape : List Char → Option (List Char)
  | [] => some []
  | '~' :: '0' :: rest => (unescape rest).map ('~' :: ·)
  | '~' :: '1' :: rest => (unescape rest).map ('/' :: ·)
  | '~' :: _ => none
  | c :: rest => (unescape rest).map (c :: ·)

/-- The path that a text stands for: nothing, or keys each of which is behind a slash. -/
def Path.ofText? (s : String) : Option Path :=
  match s.toList with
  | [] => some []
  | '/' :: rest =>
    (Text.splitOn ['/'] rest).mapM fun key => (Path.unescape key).map String.ofList
  | _ => none

theorem Path.unescape_cons {c : Char} (h : c ≠ '~') (rest : List Char) :
    unescape (c :: rest) = (unescape rest).map (c :: ·) := by
  rw [unescape.eq_def]
  split <;> simp_all

/-- An escaped key stands for the key. -/
theorem Path.unescape_escape (key : String) : unescape (escape key) = some key.toList := by
  rw [escape]
  induction key.toList with
  | nil => rfl
  | cons c rest ih =>
    rw [List.flatMap_cons]
    by_cases htilde : c = '~'
    · subst htilde
      simp [unescape, ih]
    by_cases hslash : c = '/'
    · subst hslash
      simp [unescape, ih]
    · rw [if_neg htilde, if_neg hslash, List.singleton_append, unescape_cons htilde, ih,
        Option.map_some]

/-- There is no slash in an escaped key. -/
theorem Path.slash_not_mem_escape (key : String) : '/' ∉ escape key := by
  rw [escape, List.mem_flatMap]
  rintro ⟨c, -, hc⟩
  by_cases htilde : c = '~'
  · simp [htilde] at hc
  by_cases hslash : c = '/'
  · simp [hslash] at hc
  · rw [if_neg htilde, if_neg hslash, List.mem_singleton] at hc
    exact hslash hc.symm

/-- The text of a path stands for the path. -/
theorem Path.ofText?_text (path : Path) : ofText? path.text = some path := by
  cases path with
  | nil => rfl
  | cons key path =>
    have hkeys : ∀ piece ∈ path.map escape, '/' ∉ piece := by
      intro piece hpiece
      obtain ⟨other, -, rfl⟩ := List.mem_map.mp hpiece
      exact slash_not_mem_escape other
    have hpieces : Text.splitOn ['/'] (escape key ++ path.flatMap fun key => '/' :: escape key) =
        (key :: path).map escape := by
      rw [List.map_cons, ← Text.splitOn_flatMap (slash_not_mem_escape key) hkeys, List.flatMap_map]
    have hread : ∀ path : Path,
        (path.map escape).mapM (fun key => (unescape key).map String.ofList) = some path := by
      intro path
      induction path with
      | nil => rfl
      | cons key path ih => simp [unescape_escape, ih]
    rw [ofText?, text, String.toList_ofList, List.flatMap_cons, List.cons_append]
    show (Text.splitOn ['/'] (escape key ++ _)).mapM _ = _
    rw [hpieces]
    exact hread (key :: path)

/-! ## Patches -/

def Operation.ofJson? (value : Json) : Option Operation := do
  if value.getString? "op" = some "replace" then
    return .replace (← (value.getString? "path").bind Path.ofText?) (← value.get? "value")
  else none

def Patch.ofJson? : Json → Option Patch
  | .array items => items.mapM Operation.ofJson?
  | _ => none

/-- An operation is read back from the object that is sent. -/
theorem Operation.ofJson?_toJson (operation : Operation) :
    ofJson? operation.toJson = some operation := by
  obtain ⟨path, value⟩ := operation
  have hpath : ((toJson (.replace path value)).getString? "path").bind Path.ofText? = some path :=
    Path.ofText?_text path
  rw [ofJson?, if_pos (by rfl), hpath]
  rfl

/-- A patch is read back, with its operations in their order. -/
theorem Patch.ofJson?_toJson (patch : Patch) : ofJson? patch.toJson = some patch := by
  rw [toJson, ofJson?]
  induction patch with
  | nil => rfl
  | cons operation patch ih => simp [Operation.ofJson?_toJson, ih]

end Json

end CertRenewal
