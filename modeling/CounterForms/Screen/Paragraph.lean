import CounterForms.Screen.Border
import CounterForms.Screen.Wrapping

/-!
Paragraphs: lines of text in a rectangle, broken between words or cut at its right side, and put to
the left, into the middle or to the right.
-/

namespace CounterForms

inductive Alignment
  | left
  | center
  | right
deriving DecidableEq

structure Paragraph where
  text : String
  style : Style := {}
  alignment : Alignment := .left
  wraps : Bool := false
  border : Border := {}

namespace Paragraph

def indent (alignment : Alignment) (lineWidth areaWidth : Nat) : Nat :=
  match alignment with
  | .left => 0
  | .center => areaWidth / 2 - lineWidth / 2
  | .right => areaWidth - lineWidth

def linesFor (paragraph : Paragraph) (width : Nat) : List (List (List Char)) :=
  let lines := (Text.shownLines paragraph.text.toList).map Text.symbols
  if paragraph.wraps then lines.flatMap (Wrapping.wrapLine width)
  else lines.map (Wrapping.cutLine width 0)

def drawSymbolsFrom (canvas : Canvas) (y : Nat) : Nat → List (List Char) → Canvas
  | _, [] => canvas
  | x, symbol :: later =>
      let width := Text.width symbol
      if width = 0 then drawSymbolsFrom canvas y x later
      else
        drawSymbolsFrom (canvas.change x y (Cell.showing symbol)) y (x + width) later

def drawLines (paragraph : Paragraph) (area : Area) (canvas : Canvas) :
    Nat → List (List (List Char)) → Canvas
  | _, [] => canvas
  | index, line :: later =>
      if area.height ≤ index then canvas
      else
        let start := area.x + indent paragraph.alignment (Text.totalWidth line) area.width
        paragraph.drawLines area (drawSymbolsFrom canvas (area.y + index) start line)
          (index + 1) later

def draw (paragraph : Paragraph) (area : Area) (canvas : Canvas) : Canvas :=
  let visible := area.meet canvas.area
  let framed := paragraph.border.draw visible (canvas.restyle visible paragraph.style)
  let inside := paragraph.border.inside visible
  if inside.isEmpty then framed
  else
    paragraph.drawLines inside (framed.restyle inside paragraph.style) 0
      (paragraph.linesFor inside.width)

end Paragraph

end CounterForms
