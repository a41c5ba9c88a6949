import CounterForms.Answers.Source
import CounterForms.CommandLine.Arguments
import CounterForms.Files

/-!
Setting up a run on a form: the configuration with what the command line puts in its place, the
files of the form and its answers, and the form bound to its answers. What is not known of the disk
yet may hide further paths that a run looks at, so that the paths are asked for once more when the
first ones have been looked at.
-/

namespace CounterForms

namespace CommandLine

/-- The configuration file of a run. Variables and the tilde of a given path are expanded before it
is looked for. -/
def findConfig (environment : Environment) (disk : Disk) (asked : Option Path) :
    Attempted (Option Path) := do
  let expanded ← during .expandConfigPath (asked.mapM fun path => path.expand environment)
  during .findConfig (Config.findFile environment disk expanded)

/-- The configuration as the file gives it. Where there is no file everything keeps its own value.
-/
def loadConfig (disk : Disk) (found : Option Path) : Attempted Config :=
  match found with
  | some path => during .loadConfig (Config.load disk path)
  | none => .ok {}

/-- What the command line says goes before what the configuration says. -/
def Arguments.override (arguments : Arguments) (config : Config) : Config :=
  { config with
    statusBar := arguments.statusBar.getD config.statusBar
    saveOnExit := arguments.saveOnExit.getD config.saveOnExit }

def Arguments.config (arguments : Arguments) (environment : Environment) (disk : Disk) :
    Attempted Config := do
  let found ← findConfig environment disk arguments.places.config
  let loaded ← loadConfig disk found
  let config := arguments.override loaded
  config.check
  .ok config

def Arguments.formPath (arguments : Arguments) (environment : Environment) (config : Config) :
    Attempted Path :=
  match arguments.places.form <|> config.defaultForm.map Path.mk with
  | some path => during .expandFormPath (path.expand environment)
  | none => failBy .noForm

def Arguments.answersPath (arguments : Arguments) (environment : Environment) (form : Path) :
    Attempted Path :=
  match arguments.places.answers with
  | some path => during .expandAnswersPath (path.expand environment)
  | none => standardAnswers environment form

structure Plan where
  config : Config
  form : Path
  answers : Path

def Arguments.plan (arguments : Arguments) (environment : Environment) (disk : Disk) :
    Attempted Plan := do
  let config ← arguments.config environment disk
  let form ← arguments.formPath environment config
  let answers ← arguments.answersPath environment form
  .ok ⟨config, form, answers⟩

structure BoundForm where
  form : Form
  file : AnswerFile

/-- The notes on stored values that no answer comes from. -/
def BoundForm.discardEvents (bound : BoundForm) : List LogEvent :=
  (bound.form.questions.filter fun question =>
    !question.isAnswered && bound.file.holdsValue question.name).map fun question =>
      .discardedAnswer question.name

def Plan.open (plan : Plan) (workspace : Workspace) : Attempted BoundForm × Workspace :=
  let begun := workspace.note (.resolvedPaths plan.form plan.answers)
  match FormDefinition.load begun.disk plan.form with
  | .error failure => (.error failure, begun)
  | .ok definition =>
      let looked :=
        if begun.disk.contains plan.answers then begun
        else begun.note (.answersMissing plan.answers)
      match during .loadAnswers (AnswerFile.load begun.disk plan.answers) with
      | .error failure => (.error failure, looked)
      | .ok file =>
          let bound : BoundForm := ⟨definition.bindTo (.onDisk file), file⟩
          (.ok bound, looked.noteAll bound.discardEvents)

/-- A path as it is given and as it is expanded. -/
def bothForms (environment : Environment) (path : Path) : List Path :=
  path :: (path.expand environment).toOption.toList

def Command.paths (environment : Environment) : Command → List Path
  | .validateForm path => bothForms environment path
  | .validateConfig (some path) => bothForms environment path
  | _ => []

def Arguments.planPaths (arguments : Arguments) (environment : Environment) (disk : Disk) :
    List Path :=
  match arguments.plan environment disk with
  | .ok plan => [plan.form, plan.answers]
  | .error _ => []

/-- The paths that a run may look at. -/
def reach (environment : Environment) (disk : Disk) (texts : List String) : List Path :=
  let standing :=
    Config.localFile :: ((Config.ownFile environment).toOption.toList ++
      ((dataDirectory environment).toOption.map fun directory =>
        directory.join Journal.fileName).toList)
  match Request.ofTexts texts with
  | .ok (.run arguments) =>
      standing ++ arguments.places.config.toList.flatMap (bothForms environment) ++
        arguments.command.paths environment ++ arguments.planPaths environment disk
  | _ => standing

end CommandLine

end CounterForms
