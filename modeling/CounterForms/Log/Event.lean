import CounterForms.Storage.Path
import CounterForms.Text.Basic

/-!
What the program notes in its log. Every kind of event has a level, and a target that tells which
part of the program speaks; its line names both before the message.
-/

namespace CounterForms

inductive LogLevel
  | warn
  | info
  | debug
deriving DecidableEq

inductive LogEvent
  | resolvedPaths (form answers : Path)
  | discardedAnswer (question : String)
  | answersMissing (path : Path)
  | answersWritten (path : Path) (count : Nat)
  | answerUpdated (question operation value : String)
  | answerChanged (question : String) (answer : Option Int)
  | formOpened (title : String)
  | answersSaved (answered total : Nat)
  | savingFailed (reason : String)
deriving DecidableEq

namespace LogEvent

def level : LogEvent → LogLevel
  | resolvedPaths .. | answersMissing .. | answersWritten .. | answerChanged .. => .debug
  | answerUpdated .. | formOpened .. | answersSaved .. => .info
  | discardedAnswer .. | savingFailed .. => .warn

def target : LogEvent → String
  | resolvedPaths .. | discardedAnswer .. => "tally::app::run"
  | answersMissing .. | answersWritten .. => "tally::form::answers"
  | answerUpdated .. => "tally::cli::answer"
  | answerChanged .. => "tally::tui::screens::form_screen"
  | formOpened .. | answersSaved .. | savingFailed .. => "tally::tui::tui_app"

def answerText : Option Int → String
  | none => "None"
  | some value => "Some(" ++ Text.intText value ++ ")"

def text : LogEvent → String
  | resolvedPaths .. => "resolved paths"
  | discardedAnswer .. => "stored answer outside the supported range was discarded"
  | answersMissing .. => "answers file not found, starting empty"
  | answersWritten .. => "answers written"
  | answerUpdated .. => "answer updated from cli"
  | answerChanged .. => "answer changed"
  | formOpened .. => "form opened"
  | answersSaved .. => "answers saved"
  | savingFailed .. => "saving answers failed"

def fields : LogEvent → List (String × String)
  | resolvedPaths form answers => [("form", form.text), ("answers", answers.text)]
  | discardedAnswer question => [("question", question)]
  | answersMissing path => [("path", path.text)]
  | answersWritten path count => [("path", path.text), ("count", Text.natText count)]
  | answerUpdated question operation value =>
      [("question", question), ("operation", operation), ("value", value)]
  | answerChanged question answer => [("question", question), ("value", answerText answer)]
  | formOpened title => [("title", title)]
  | answersSaved answered total =>
      [("answered", Text.natText answered), ("total", Text.natText total)]
  | savingFailed reason => [("error", reason)]

def message (event : LogEvent) : String :=
  event.text ++ String.join (event.fields.map fun field => " " ++ field.1 ++ "=" ++ field.2)

def line (event : LogEvent) : String :=
  let word := match event.level with
    | .warn => "WARN"
    | .info => "INFO"
    | .debug => "DEBUG"
  word ++ " " ++ event.target ++ ": " ++ event.message ++ "\n"

end LogEvent

end CounterForms
