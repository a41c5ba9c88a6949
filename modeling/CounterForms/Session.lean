import CounterForms.Answers.Source
import CounterForms.Key.Bindings
import CounterForms.Screen.FormScreen

/-!
Filling in a form on the screen. A session takes keys one by one, each of which may change the form,
save its answers or end the session; a session that has ended takes no more keys. When it is left,
the answers may be saved once more.
-/

namespace CounterForms

inductive KeyMotion
  | press
  | hold
  | release
deriving DecidableEq, Inhabited

structure KeyEvent where
  chord : ReportedChord
  motion : KeyMotion := .press
deriving DecidableEq, Inhabited

/-- What ends a session whatever the bindings are: the letter C with Control and any other
modifiers. -/
def ReportedChord.interrupts (report : ReportedChord) : Bool :=
  report.code == .character 'c' && report.modifiers.control

structure Session where
  screen : FormScreen
  source : AnswerSource
  workspace : Workspace
  theme : Theme
  bindings : Bindings
  showsStatus : Bool
  savesOnExit : Bool
  /-- Whether the session has ended. -/
  ended : Bool := false

namespace Session

def start (config : Config) (form : Form) (source : AnswerSource) (workspace : Workspace) :
    Attempted Session := do
  let bindings ← during .openScreen (orFail .binding (Bindings.ofTexts config.bindings))
  let theme ← during .openScreen (orFail .color (Theme.ofSettings config.styles))
  .ok {
    screen := (FormScreen.ofForm form).enter theme bindings
    source
    workspace
    theme
    bindings
    showsStatus := config.statusBar
    savesOnExit := config.saveOnExit }

def form (session : Session) : Form := session.screen.form

def status (session : Session) : Status := session.screen.status

def withStatus (session : Session) (status : Status) : Session :=
  { session with screen := { session.screen with status := status } }

def note (session : Session) (event : LogEvent) : Session :=
  { session with workspace := session.workspace.note event }

def opened (session : Session) : Session := session.note (.formOpened session.form.title)

def save (session : Session) : Attempted Unit × Session :=
  let kept := (session.source.setAnswers session.form.answers).keep session.workspace
  let after := { session with source := kept.source, workspace := kept.workspace }
  match kept.result with
  | .error failure => (.error failure, after)
  | .ok () =>
      (.ok (), (after.note (.answersSaved session.form.answeredCount session.form.size)).withStatus
        .saved)

def trySave (session : Session) : Session :=
  match session.save with
  | (.ok (), saved) => saved
  | (.error failure, kept) =>
      (kept.note (.savingFailed failure.headline)).withStatus (.error failure.headline)

/-- The note that an action asks for that changed the selected question. -/
def changeEvents (before after : FormScreen) : List LogEvent :=
  match before.selectedQuestion?, after.form.question? before.list.selected with
  | some question, some changed =>
      if changed.changedFrom question then [.answerChanged changed.name changed.answer] else []
  | _, _ => []

def act (session : Session) (action : Action) : Session :=
  let (screen, intent) := session.screen.act action
  let acted := { session with
    screen := screen
    workspace := session.workspace.noteAll (changeEvents session.screen screen) }
  match intent with
  | .nothing => acted
  | .quit => { acted with ended := true }
  | .save => acted.trySave

def press (session : Session) (chord : ReportedChord) : Session :=
  if session.ended then session
  else if chord.interrupts then { session with ended := true }
  else
    match session.bindings.action? chord with
    | some action => session.act action
    | none => session

/-- Takes what the terminal reports. Only keys that go down count. -/
def take (session : Session) (event : KeyEvent) : Session :=
  if event.motion = .press then session.press event.chord else session

def takeAll (session : Session) (events : List KeyEvent) : Session := events.foldl take session

def leave (session : Session) : Attempted Unit × Session :=
  if session.savesOnExit then
    let (result, saved) := session.save
    (during .saveOnExit result, saved)
  else (.ok (), session)

def statusHeight : Nat := 3

def draw (session : Session) (canvas : Canvas) : Session × Canvas :=
  let area := canvas.area
  let background := canvas.restyle area { background := some session.theme.palette.background }
  let split := if session.showsStatus then area.height - statusHeight else area.height
  let (screen, drawn) := session.screen.draw (area.rows 0 split) session.theme background
  let after := { session with screen := screen }
  if session.showsStatus then
    (after, screen.drawStatus (area.rows split area.height) session.theme drawn)
  else (after, drawn)

end Session

end CounterForms
