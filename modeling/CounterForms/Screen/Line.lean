import CounterForms.Screen.Canvas
import CounterForms.Text.Cluster

/-!
Drawing a line of text cell by cell. A symbol that would not fit any more ends the line, and a mark
without a width joins the symbol before it.
-/

namespace CounterForms

/-- Draws symbols from column `x` up to column `right` in row `y`. A symbol of several cells covers
the cells behind its first one, which lose what they showed. -/
def drawSymbols (canvas : Canvas) (left right y : Nat) (style : Style) :
    Bool → Nat → List (List Char) → Canvas
  | _, _, [] => canvas
  | first, x, symbol :: later =>
      let width := Text.width symbol
      if right < x + width then canvas
      else
        let placed :=
          if first then canvas.change x y fun cell => (cell.showing symbol).styled style
          else if x = left then canvas.change x y fun cell => (cell.marked symbol).styled style
          else if width = 0 then
            canvas.change (x - 1) y fun cell => (cell.marked symbol).styled style
          else canvas.change x y fun cell => (cell.showing symbol).styled style
        let covered := placed.paint ⟨x + 1, y, width - 1, 1⟩ fun _ => {}
        drawSymbols covered left right y style false (x + width) later

def drawSpan (canvas : Canvas) (area : Area) (style : Style) (span : List Char) : Canvas :=
  let visible := area.meet canvas.area
  if visible.isEmpty then canvas
  else drawSymbols canvas visible.x visible.right visible.y style true visible.x (Text.symbols span)

/-- Draws texts one behind the other in the first row of a rectangle. A text without a width is left
out. -/
def drawSpans (canvas : Canvas) (area : Area) (style : Style) : List (List Char) → Canvas
  | [] => canvas
  | span :: later =>
      let width := Text.width span
      if area.isEmpty then canvas
      else if width = 0 then drawSpans canvas area style later
      else
        let drawn := drawSpan canvas area style span
        let used := min width area.width
        drawSpans drawn { area with x := area.x + used, width := area.width - used } style later

/-- Draws a single line from the left of a rectangle: the lines of a text one behind the other. -/
def drawLine (canvas : Canvas) (area : Area) (style : Style) (spans : List (List Char)) : Canvas :=
  let visible := area.meet canvas.area
  if visible.isEmpty then canvas
  else drawSpans canvas { visible with height := 1 } style spans

end CounterForms
