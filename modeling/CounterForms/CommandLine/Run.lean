import CounterForms.CommandLine.Answer
import CounterForms.CommandLine.Setup
import CounterForms.CommandLine.Validate
import CounterForms.Session

/-!
A run of the program from its command line to its end. A run that fills in a form on the screen
stops on the way with a session, which takes keys until it is over; all other runs go through at
once.
-/

namespace CounterForms

namespace CommandLine

inductive Ending
  | done
  | failed (failure : Failure)
  | misused (fault : UsageFault)

def Ending.code : Ending → Nat
  | .done => 0
  | .failed _ => 1
  | .misused _ => 2

structure Outcome where
  printed : String := ""
  warning : Option Failure := none
  ending : Ending := .done
  disk : Disk

def Outcome.complaints (outcome : Outcome) (messagesOf : Failure → List String) : String :=
  let warned := match outcome.warning with
    | some failure =>
        "Warning: logging disabled: " ++ Failure.inOneLine (messagesOf failure) ++ "\n"
    | none => ""
  let ended := match outcome.ending with
    | .done => ""
    | .failed failure => "Error: " ++ Failure.report (messagesOf failure) ++ "\n"
    | .misused fault => "error: " ++ fault.message ++ "\n"
  warned ++ ended

def versionText : String := "tally 0.1.0\n"

def helpText : String :=
  "Usage: tally [OPTIONS] [COMMAND]\n\n" ++
    "Commands:\n" ++
    "  answer       Read or change one answer without the screen\n" ++
    "  completions  Print a completion script for a shell\n" ++
    "  validate     Judge a form or configuration file\n\n" ++
    "Options:\n" ++
    "  --config <PATH>, --form <PATH>, --answers <PATH>\n" ++
    "  --status-bar <BOOL>, --save-on-exit <BOOL>\n" ++
    "  --help, --version\n"

/-- What a terminal is sent to leave the screen and show the cursor again. -/
def leaveScreenText : String := "\x1b[?1049l\x1b[?25h"

inductive Progress
  | ended (outcome : Outcome)
  | filling (warning : Option Failure) (session : Session)

def conclude (disk : Disk) : Attempted String → Progress
  | .ok printed => .ended { printed, disk }
  | .error failure => .ended { ending := .failed failure, disk }

/-- Opens the journal of a run, or tells why there is none. -/
def openWorkspace (environment : Environment) (disk : Disk) : Option Failure × Workspace :=
  match Journal.start environment disk with
  | (.ok journal, ready) => (none, ⟨ready, some journal⟩)
  | (.error failure, ready) => (some failure, ⟨ready, none⟩)

def Arguments.openForm (arguments : Arguments) (environment : Environment) (workspace : Workspace) :
    Attempted (Config × BoundForm) × Workspace :=
  match arguments.plan environment workspace.disk with
  | .error failure => (.error failure, workspace)
  | .ok plan =>
      let (bound, after) := plan.open workspace
      (bound.map fun bound => (plan.config, bound), after)

def Arguments.answer (arguments : Arguments) (environment : Environment) (disk : Disk)
    (question : String) (operation : Operation) : Outcome :=
  let (warning, workspace) := openWorkspace environment disk
  let (opened, after) := arguments.openForm environment workspace
  match opened with
  | .error failure => { warning, ending := .failed failure, disk := after.disk }
  | .ok (_, bound) =>
      let answered := bound.form.answer (.onDisk bound.file) after question operation
      match answered.shown with
      | .error failure => { warning, ending := .failed failure, disk := answered.workspace.disk }
      | .ok text => { printed := text ++ "\n", warning, disk := answered.workspace.disk }

def Arguments.fill (arguments : Arguments) (environment : Environment) (disk : Disk) : Progress :=
  let (warning, workspace) := openWorkspace environment disk
  let (opened, after) := arguments.openForm environment workspace
  match opened with
  | .error failure => .ended { warning, ending := .failed failure, disk := after.disk }
  | .ok (config, bound) =>
      match Session.start config bound.form (.onDisk bound.file) after with
      | .error failure => .ended { warning, ending := .failed failure, disk := after.disk }
      | .ok session => .filling warning session

def Arguments.begin (arguments : Arguments) (environment : Environment) (disk : Disk) : Progress :=
  match arguments.command with
  | .fill => arguments.fill environment disk
  | .answer question operation => .ended (arguments.answer environment disk question operation)
  | .complete shell => .ended { printed := shell.script, disk }
  | .validateForm path => conclude disk (validateForm environment disk path)
  | .validateConfig given =>
      conclude disk (validateConfig environment disk given arguments.places.config)
  | .validateNothing => conclude disk (failBy .nothingToValidate)

def begin (environment : Environment) (disk : Disk) (texts : List String) : Progress :=
  match Request.ofTexts texts with
  | .error fault => .ended { ending := .misused fault, disk }
  | .ok .version => .ended { printed := versionText, disk }
  | .ok .help => .ended { printed := helpText, disk }
  | .ok (.run arguments) => arguments.begin environment disk

def finish (warning : Option Failure) (session : Session) : Outcome :=
  let (result, left) := session.leave
  let ending := match result with
    | .ok () => Ending.done
    | .error failure => .failed failure
  { warning, ending, disk := left.workspace.disk }

/-- Ends a run that has a session and no terminal. -/
def withoutTerminal (warning : Option Failure) (session : Session) : Outcome where
  printed := leaveScreenText
  warning := warning
  ending := .failed ⟨[], .noTerminal⟩
  disk := session.workspace.disk

/-- A whole run. The terminal, if there is one, reports keys. -/
def run (environment : Environment) (disk : Disk) (texts : List String)
    (terminal : Option (List KeyEvent)) : Outcome :=
  match begin environment disk texts with
  | .ended outcome => outcome
  | .filling warning session =>
      match terminal with
      | some events => finish warning (session.opened.takeAll events)
      | none => withoutTerminal warning session

end CommandLine

end CounterForms
