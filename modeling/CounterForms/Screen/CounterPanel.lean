import CounterForms.Question
import CounterForms.Screen.Paragraph

/-!
The panel of one question: its label, its hint, and its value between two buttons. A button is shown
as enabled exactly if pressing it would change the answer.
-/

namespace CounterForms

structure Captions where
  decrease : String := ""
  increase : String := ""
deriving DecidableEq, Inhabited

def Captions.of (settings : CounterSettings) (bindings : Bindings) : Captions where
  decrease := settings.decreaseLabel ++ " (" ++ (bindings .decrease).label ++ ")"
  increase := settings.increaseLabel ++ " (" ++ (bindings .increase).label ++ ")"

namespace CounterPanel

structure Parts where
  label : Area
  hint : Area
  decrease : Area
  value : Area
  increase : Area
deriving DecidableEq

def partsOf (inside : Area) : Parts :=
  let (labelEnd, hintEnd, rowEnd) := counterBounds inside.height
  let row := inside.rows hintEnd rowEnd
  let (decreaseEnd, valueEnd) := buttonBounds row.width
  {
    label := inside.rows 0 labelEnd
    hint := inside.rows labelEnd hintEnd
    decrease := row.columns 0 decreaseEnd
    value := row.columns decreaseEnd valueEnd
    increase := row.columns valueEnd row.width
  }

def title (question : Question) : String :=
  if question.readOnly then question.name ++ " (read-only)" else question.name

def border (settings : CounterSettings) (palette : Palette) (question : Option Question) :
    Border where
  sides := (Sides.ofChoices settings.borders).getD {}
  sideStyle := { foreground := some palette.bordersCounter }
  fill := { foreground := some palette.textCounter, background := some palette.backgroundCounter }
  title := question.map title

def labelStyle (settings : CounterSettings) (palette : Palette) : Style :=
  Style.weighted { foreground := some palette.textCounter } settings.fontWeight

def button (palette : Palette) (caption : String) (enabled : Bool) : Paragraph :=
  let color := if enabled then palette.buttonEnabled else palette.buttonDisabled
  {
    text := caption
    style := { foreground := some color, bold := enabled }
    alignment := .center
    border := { sides := .all, sideStyle := { foreground := some color } }
  }

def labelText (settings : CounterSettings) (palette : Palette) (question : Question) :
    Paragraph where
  text := question.label
  style := labelStyle settings palette
  wraps := true

def hintText (palette : Palette) (hint : String) : Paragraph where
  text := hint
  style := { foreground := some palette.textHint, italic := true }
  wraps := true

def valueText (settings : CounterSettings) (palette : Palette) (question : Question) :
    Paragraph where
  text := question.shownText settings.emptyPlaceholder
  style := labelStyle settings palette
  alignment := .center
  border := { sides := { top := true, bottom := true } }

/-- Draws what stands within the frame. The value is drawn last. -/
def drawParts (captions : Captions) (parts : Parts) (question : Question)
    (settings : CounterSettings) (palette : Palette) (canvas : Canvas) : Canvas :=
  let labelled := (labelText settings palette question).draw parts.label canvas
  let hinted := match settings.showHint, question.hint with
    | true, some hint => (hintText palette hint).draw parts.hint labelled
    | _, _ => labelled
  hinted
    |> (button palette captions.decrease question.decreaseEnabled).draw parts.decrease
    |> (button palette captions.increase question.increaseEnabled).draw parts.increase
    |> (valueText settings palette question).draw parts.value

def draw (captions : Captions) (area : Area) (question : Option Question)
    (settings : CounterSettings) (palette : Palette) (canvas : Canvas) : Canvas :=
  let frame := border settings palette question
  let framed := frame.draw area canvas
  match question with
  | none => framed
  | some shown => drawParts captions (partsOf (frame.inside area)) shown settings palette framed

end CounterPanel

end CounterForms
