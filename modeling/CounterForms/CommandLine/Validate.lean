import CounterForms.CommandLine.Arguments
import CounterForms.Files

/-!
Judging a form file or a configuration file. A file that is fit for use is confirmed, a form with
its title and its questions.
-/

namespace CounterForms

namespace CommandLine

def declarationLine (declaration : Declaration) : String :=
  "    - " ++ declaration.name ++ ": " ++ declaration.label ++
    (if declaration.readOnly then " (read-only)" else "") ++ "\n"

def formConfirmation (path : Path) (definition : FormDefinition) : String :=
  "✓ Form file is valid: " ++ path.text ++ "\n  Title: " ++ definition.title ++
    "\n  Questions: " ++ Text.natText definition.questions.length ++ "\n" ++
    String.join (definition.questions.map declarationLine)

def validateForm (environment : Environment) (disk : Disk) (path : Path) : Attempted String := do
  let expanded ← path.expand environment
  let definition ← FormDefinition.load disk expanded
  .ok (formConfirmation expanded definition)

def validateConfigAt (environment : Environment) (disk : Disk) (path : Path) :
    Attempted String := do
  let expanded ← path.expand environment
  let config ← during (.loadConfigFile expanded) (Config.load disk expanded)
  during (.checkConfigFile expanded) config.check
  .ok ("✓ Config file is valid: " ++ expanded.text ++ "\n")

/-- Judges the configuration file at a given path, or the one that is found without it. -/
def validateConfig (environment : Environment) (disk : Disk) (given asked : Option Path) :
    Attempted String := do
  match given with
  | some path => validateConfigAt environment disk path
  | none =>
      match ← Config.findFile environment disk asked with
      | some path => validateConfigAt environment disk path
      | none => do
          let own ← Config.ownFile environment
          failBy (.noConfig own)

end CommandLine

end CounterForms
