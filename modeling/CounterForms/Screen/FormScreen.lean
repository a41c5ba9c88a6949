import CounterForms.Form.Basic
import CounterForms.Screen.CounterPanel
import CounterForms.Screen.QuestionList
import CounterForms.Screen.StatusBar

/-!
The screen on which a form is filled in: the list of questions on the left and the selected question
on the right. Actions move the selection, press the buttons of the selected question, or ask for
what only the session can do.
-/

namespace CounterForms

structure Theme where
  settings : StyleSettings
  palette : Palette

def Theme.ofSettings (settings : StyleSettings) : Except ColorFault Theme := do
  let palette ← Palette.ofTexts settings.colors
  pure ⟨settings, palette⟩

inductive Intent
  | nothing
  | save
  | quit
deriving DecidableEq, Inhabited

structure FormScreen where
  form : Form
  list : QuestionList := {}
  captions : Captions := {}
  status : Status := .idle

namespace FormScreen

def ofForm (form : Form) : FormScreen := { form }

/-- Prepares the screen for its first drawing: captions for the buttons, and the first question is
selected. -/
def enter (screen : FormScreen) (theme : Theme) (bindings : Bindings) : FormScreen :=
  { screen with
    captions := .of theme.settings.counter bindings
    list := screen.list.selectFirst }

def selectedQuestion? (screen : FormScreen) : Option Question :=
  screen.form.question? screen.list.selected

/-- Presses a button of the selected question. The status tells if that changed the answer. -/
def press (screen : FormScreen) (button : Question → Question) : FormScreen :=
  match screen.selectedQuestion? with
  | none => screen
  | some question =>
      if (button question).changedFrom question then
        { screen with
          form := screen.form.modify screen.list.selected button
          status := .modified }
      else screen

/-- Carries out an action, and tells what is left for the session to do. -/
def act (screen : FormScreen) : Action → FormScreen × Intent
  | .back => (screen, .quit)
  | .save => (screen, .save)
  | .selectPrevious => ({ screen with list := screen.list.selectPrevious }, .nothing)
  | .selectNext => ({ screen with list := screen.list.selectNext screen.form.size }, .nothing)
  | .increase => (screen.press Question.increase, .nothing)
  | .decrease => (screen.press Question.decrease, .nothing)
  | .clear => (screen.press Question.clear, .nothing)

def halves (area : Area) (scaffold : ScaffoldSettings) : Area × Area :=
  let (listEnd, panelEnd) := percentBounds area.width scaffold.leftShare scaffold.rightShare
  (area.columns 0 listEnd, area.columns listEnd panelEnd)

/-- Draws the screen. Only what the list remembers changes. -/
def draw (screen : FormScreen) (area : Area) (theme : Theme) (canvas : Canvas) :
    FormScreen × Canvas :=
  let (listArea, panelArea) := halves area theme.settings.scaffold
  let (list, listed) :=
    screen.list.draw listArea screen.form.questions theme.settings.list theme.palette canvas
  let drawn := { screen with list := list }
  (drawn, CounterPanel.draw screen.captions panelArea drawn.selectedQuestion?
    theme.settings.counter theme.palette listed)

def drawStatus (screen : FormScreen) (area : Area) (theme : Theme) (canvas : Canvas) : Canvas :=
  StatusBar.draw area screen.form.title screen.status theme.settings.status theme.palette canvas

end FormScreen

end CounterForms
