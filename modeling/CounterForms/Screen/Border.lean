import CounterForms.Screen.Line

/-!
Frames around a rectangle, with a title in the top row. The frame takes a row or column on every
side that it draws, and the title takes the top row.
-/

namespace CounterForms

structure Border where
  sides : Sides := {}
  sideStyle : Style := {}
  fill : Style := {}
  title : Option String := none

namespace Border

def inside (border : Border) (area : Area) : Area :=
  let left := if border.sides.left then 1 else 0
  let right := if border.sides.right then 1 else 0
  let top := if border.sides.top || border.title.isSome then 1 else 0
  let bottom := if border.sides.bottom then 1 else 0
  ⟨min (area.x + left) area.right, min (area.y + top) area.bottom,
    area.width - left - right, area.height - top - bottom⟩

def drawAll (canvas : Canvas) (area : Area) (style : Style) (symbol : Char) : Canvas :=
  canvas.paint area fun cell => (cell.showing [symbol]).styled style

def drawIf (present : Bool) (area : Area) (style : Style) (symbol : Char) (canvas : Canvas) :
    Canvas :=
  if present then drawAll canvas area style symbol else canvas

/-- Draws the sides and then the corners where two of them meet. -/
def drawSides (border : Border) (area : Area) (canvas : Canvas) : Canvas :=
  let sides := border.sides
  let lastColumn := area.right - 1
  let lastRow := area.bottom - 1
  let left : Area := ⟨area.x, area.y, 1, area.height⟩
  let right : Area := ⟨lastColumn, area.y, 1, area.height⟩
  let top : Area := ⟨area.x, area.y, area.width, 1⟩
  let bottom : Area := ⟨area.x, lastRow, area.width, 1⟩
  let style := border.sideStyle
  canvas
    |> drawIf sides.left left style '│'
    |> drawIf sides.top top style '─'
    |> drawIf sides.right right style '│'
    |> drawIf sides.bottom bottom style '─'
    |> drawIf (sides.right && sides.bottom) ⟨lastColumn, lastRow, 1, 1⟩ style '┘'
    |> drawIf (sides.right && sides.top) ⟨lastColumn, area.y, 1, 1⟩ style '┐'
    |> drawIf (sides.left && sides.bottom) ⟨area.x, lastRow, 1, 1⟩ style '└'
    |> drawIf (sides.left && sides.top) ⟨area.x, area.y, 1, 1⟩ style '┌'

def drawTitle (border : Border) (area : Area) (canvas : Canvas) : Canvas :=
  match border.title with
  | none => canvas
  | some title =>
      let left := if border.sides.left then 1 else 0
      let right := if border.sides.right then 1 else 0
      let spans := Text.lines title.toList
      let width := min (Text.totalWidth spans) (area.width - left - right)
      drawLine canvas ⟨area.x + left, area.y, width, 1⟩ {} spans

def draw (border : Border) (area : Area) (canvas : Canvas) : Canvas :=
  let visible := area.meet canvas.area
  if visible.isEmpty then canvas
  else
    (canvas.restyle visible border.fill)
      |> border.drawSides visible
      |> border.drawTitle visible

end Border

end CounterForms
