import CounterForms.Text.Pieces
import CounterForms.Text.Quoted

/-!
Paths as they are written. A path keeps its text; its components are what the text means once empty
pieces and single dots are left out.
-/

namespace CounterForms

structure Path where
  text : String
deriving DecidableEq, Inhabited

namespace Path

/-- What stands between the slashes of a path. A single dot counts only at the start. -/
inductive Component
  | root
  | here
  | parent
  | name (name : String)
deriving DecidableEq

def chars (path : Path) : List Char := path.text.toList

def isEmpty (path : Path) : Bool := path.text.isEmpty

def isAbsolute (path : Path) : Bool := path.chars.head? == some '/'

def quoted (path : Path) : String := Text.quotedPath path.text

/-- The component that a piece of the text means, if it means one. -/
def component? (piece : List Char) : Option Component :=
  if piece = [] ∨ piece = ['.'] then none
  else if piece = ['.', '.'] then some .parent
  else some (.name (String.ofList piece))

def components (path : Path) : List Component :=
  let pieces := Text.pieces '/' path.chars
  let start :=
    if path.isAbsolute then [Component.root]
    else if pieces.head? = some ['.'] then [Component.here]
    else []
  start ++ pieces.filterMap component?

/-- Puts a path behind another one, with a slash between them if none is there. An absolute path
stands for itself. -/
def join (base : Path) (behind : String) : Path :=
  if (Path.mk behind).isAbsolute then ⟨behind⟩
  else if base.isEmpty || base.chars.getLast? == some '/' then ⟨base.text ++ behind⟩
  else ⟨base.text ++ "/" ++ behind⟩

def fileName? (path : Path) : Option String :=
  match path.components.getLast? with
  | some (.name name) => some name
  | _ => none

/-- A file name up to its last dot. A dot at the front does not count. -/
def stemOf (name : String) : String :=
  let backward := name.toList.reverse
  match backward.dropWhile (· != '.') with
  | [] => name
  | [_] => name
  | _ :: stem => String.ofList stem.reverse

def fileStem? (path : Path) : Option String := path.fileName?.map stemOf

/-- Drops pieces without meaning from the end. Both texts run backward. -/
def trimEnd : Nat → List Char → List Char
  | 0, backward => backward
  | steps + 1, backward =>
      let piece := backward.takeWhile (· != '/')
      if backward ≠ [] ∧ (piece = [] ∨ piece = ['.']) then
        trimEnd steps (backward.drop (piece.length + 1))
      else backward

/-- The path without its last component. The root and the empty path have no parent. -/
def parent? (path : Path) : Option Path :=
  let characters := path.chars
  let lead :=
    if path.isAbsolute ∨ characters = ['.'] ∨ characters.take 2 = ['.', '/'] then 1 else 0
  let body := trimEnd characters.length (characters.drop lead).reverse
  if body = [] then
    if characters.take lead = ['.'] then some ⟨""⟩ else none
  else
    let rest := (body.dropWhile (· != '/')).drop 1
    some ⟨String.ofList (characters.take lead ++ (trimEnd characters.length rest).reverse)⟩

end Path

end CounterForms
