import CounterForms.Screen.Geometry
import CounterForms.Text.Cluster
import CounterForms.Text.Width

/-!
A canvas of cells. Every cell shows a symbol in its colours; drawing changes the cells of a
rectangle and no others, and what would fall beside the canvas is dropped.
-/

namespace CounterForms

/-- A style changes the colours it names and adds the weights it has. -/
structure Style where
  foreground : Option Color := none
  background : Option Color := none
  bold : Bool := false
  italic : Bool := false
deriving DecidableEq, Inhabited

def Style.weighted (style : Style) (weight : FontWeight) : Style :=
  { style with bold := style.bold || weight == .bold }

structure Cell where
  symbol : List Char := [' ']
  foreground : Color := .reset
  background : Color := .reset
  bold : Bool := false
  italic : Bool := false
deriving DecidableEq, Inhabited

namespace Cell

def styled (style : Style) (cell : Cell) : Cell :=
  { cell with
    foreground := style.foreground.getD cell.foreground
    background := style.background.getD cell.background
    bold := cell.bold || style.bold
    italic := cell.italic || style.italic }

def showing (symbol : List Char) (cell : Cell) : Cell := { cell with symbol := symbol }

def marked (mark : List Char) (cell : Cell) : Cell := { cell with symbol := cell.symbol ++ mark }

end Cell

structure Canvas where
  width : Nat
  height : Nat
  cells : Array Cell
  sized : cells.size = width * height

namespace Canvas

def blank (width height : Nat) : Canvas :=
  ⟨width, height, Array.replicate (width * height) {}, by simp⟩

def area (canvas : Canvas) : Area := ⟨0, 0, canvas.width, canvas.height⟩

def get? (canvas : Canvas) (x y : Nat) : Option Cell :=
  if x < canvas.width ∧ y < canvas.height then canvas.cells[y * canvas.width + x]? else none

def change (canvas : Canvas) (x y : Nat) (act : Cell → Cell) : Canvas :=
  if x < canvas.width ∧ y < canvas.height then
    { canvas with
      cells := canvas.cells.modify (y * canvas.width + x) act
      sized := by rw [Array.size_modify]; exact canvas.sized }
  else canvas

def paint (canvas : Canvas) (area : Area) (act : Cell → Cell) : Canvas :=
  { canvas with
    cells := canvas.cells.mapIdx fun index cell =>
      if area.holds (index % canvas.width) (index / canvas.width) then act cell else cell
    sized := by rw [Array.size_mapIdx]; exact canvas.sized }

def restyle (canvas : Canvas) (area : Area) (style : Style) : Canvas :=
  canvas.paint area (Cell.styled style)

def row (canvas : Canvas) (y : Nat) : List Cell :=
  (List.range canvas.width).filterMap fun x => canvas.get? x y

end Canvas

end CounterForms
