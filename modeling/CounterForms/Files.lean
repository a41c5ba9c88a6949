import CounterForms.Config.Reading
import CounterForms.Failure
import CounterForms.Form.Reading

/-!
The files of the program: where its configuration, its data and the answers of a form lie if nothing
else is said, and how a configuration and the definition of a form are loaded and judged.
-/

namespace CounterForms

def Path.expand (path : Path) (environment : Environment) : Attempted Path :=
  during .expandPath (orFail .variable (environment.expand path))

/-- A directory of the program, which needs a home directory unless a variable names its place. -/
def programDirectory (found : Option Path) : Attempted Path :=
  match found with
  | some directory => .ok directory
  | none => failBy .homeless

def configDirectory (environment : Environment) : Attempted Path :=
  programDirectory environment.configDirectory?

def dataDirectory (environment : Environment) : Attempted Path :=
  programDirectory environment.dataDirectory?

/-- Where the answers of a form go: among the program's data, under the name of the form file. -/
def standardAnswers (environment : Environment) (form : Path) : Attempted Path :=
  match form.fileStem? with
  | none => failBy (.namelessForm form)
  | some stem => do
      let directory ← dataDirectory environment
      .ok ((directory.join "answers").join (stem ++ ".json"))

namespace Config

def fileName : String := "tally.toml"

def ownFile (environment : Environment) : Attempted Path := do
  .ok ((← configDirectory environment).join fileName)

def localFile : Path := (Path.mk ".").join fileName

/-- The configuration file to use: the one asked for, or the program's own one, or the one in the
working directory. There need not be one unless it is asked for. -/
def findFile (environment : Environment) (disk : Disk) (asked : Option Path) :
    Attempted (Option Path) :=
  match asked with
  | some path => if disk.contains path then .ok (some path) else failBy (.missingConfig path)
  | none => do
      let own ← ownFile environment
      if disk.contains own then .ok (some own)
      else if disk.contains localFile then .ok (some localFile)
      else .ok none

def load (disk : Disk) (path : Path) : Attempted Config := do
  let text ← during (.readFile path) (orFail .storage (disk.readText path))
  during (.parseFile path) (orFail .document (Config.ofText text))

def check (config : Config) : Attempted Unit := do
  orFail .settings config.styles.check
  let _ ← during .readBindings (orFail .binding (Bindings.ofTexts config.bindings))
  .ok ()

end Config

def FormDefinition.load (disk : Disk) (path : Path) : Attempted FormDefinition := do
  let text ← during (.readFile path) (orFail .storage (disk.readText path))
  let definition ← during (.parseFile path) (orFail .document (FormDefinition.ofText text))
  during (.useForm path) (orFail .form definition.check)
  .ok definition

end CounterForms
