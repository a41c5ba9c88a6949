import CounterForms.Proofs.CommandLine.Run
import CounterForms.Proofs.Log.Sparing

/-!
What a run reads before it answers a question: its configuration, its form and its answers. A run
depends on the disk through what lies at these paths, and a journal that is none of them changes
nothing of what it reads.
-/

namespace CounterForms

namespace Config

def lookedAt (environment : Environment) : Option Path → List Path
  | some path => [path]
  | none => (ownFile environment).toOption.toList ++ [localFile]

theorem find_file_listed (environment : Environment) (disk : Disk) (asked : Option Path)
    (found : Path) (finds : findFile environment disk asked = .ok (some found)) :
    found ∈ lookedAt environment asked := by
  unfold findFile at finds
  cases asked with
  | some path =>
      dsimp only at finds
      split at finds
      · cases finds
        simp [lookedAt]
      · cases finds
  | none =>
      cases own : ownFile environment with
      | error failure =>
          rw [own] at finds
          cases finds
      | ok path =>
          simp only [own, bind, Except.bind] at finds
          split at finds
          · cases finds
            simp [lookedAt, own, Except.toOption]
          · split at finds
            · cases finds
              simp [lookedAt]
            · cases finds

theorem find_file_congr (environment : Environment) (before after : Disk) (asked : Option Path)
    (same : ∀ path ∈ lookedAt environment asked, after.find path = before.find path) :
    findFile environment after asked = findFile environment before asked := by
  have contains (path : Path) (listed : path ∈ lookedAt environment asked) :
      after.contains path = before.contains path := by
    rw [Disk.contains, same path listed, Disk.contains]
  unfold findFile
  cases asked with
  | some path =>
      dsimp only
      rw [contains path (by simp [lookedAt])]
  | none =>
      cases own : ownFile environment with
      | error failure => rfl
      | ok path =>
          have first := contains path (by simp [lookedAt, own, Except.toOption])
          have second := contains localFile (by simp [lookedAt])
          simp only [bind, Except.bind, first, second]

theorem load_congr (before after : Disk) (path : Path) (same : after.find path = before.find path) :
    load after path = load before path := by
  unfold load Disk.readText
  rw [same]

end Config

theorem FormDefinition.load_congr (before after : Disk) (path : Path)
    (same : after.find path = before.find path) : load after path = load before path := by
  unfold load Disk.readText
  rw [same]

theorem FormDefinition.load_text (disk : Disk) (path : Path) (text : String)
    (definition : FormDefinition) (found : disk.find path = .ok (.file text.toUTF8))
    (read : ofText text = .ok definition) (checked : definition.check = .ok ()) :
    load disk path = .ok definition := by
  simp only [load, disk.read_text_find path text found, orFail, during, bind, Except.bind, read,
    checked]

namespace CommandLine

def Arguments.configPaths (arguments : Arguments) (environment : Environment) : List Path :=
  match arguments.places.config.mapM fun path => path.expand environment with
  | .ok asked => Config.lookedAt environment asked
  | .error _ => []

theorem Arguments.plan_congr (arguments : Arguments) (environment : Environment)
    (before after : Disk)
    (same : ∀ path ∈ arguments.configPaths environment, after.find path = before.find path) :
    arguments.plan environment after = arguments.plan environment before := by
  have config : arguments.config environment after = arguments.config environment before := by
    unfold Arguments.config findConfig
    unfold Arguments.configPaths at same
    cases expanded : arguments.places.config.mapM fun path => path.expand environment with
    | error failure => rfl
    | ok asked =>
        rw [expanded] at same
        simp only [during, bind, Except.bind,
          Config.find_file_congr environment before after asked same]
        cases finds : Config.findFile environment before asked with
        | error failure => rfl
        | ok found =>
            cases found with
            | none => rfl
            | some path =>
                have listed := Config.find_file_listed environment before asked path finds
                simp only [loadConfig, Config.load_congr before after path (same path listed)]
  unfold Arguments.plan
  rw [config]

structure Arguments.Reads (arguments : Arguments) (environment : Environment) (disk : Disk)
    (plan : Plan) (definition : FormDefinition) (file : AnswerFile) : Prop where
  planned : arguments.plan environment disk = .ok plan
  defined : FormDefinition.load disk plan.form = .ok definition
  opened : AnswerFile.load disk plan.answers = .ok file

/-- The form and the configuration are found as they were. -/
def Arguments.FindsAgain (arguments : Arguments) (environment : Environment) (plan : Plan)
    (before after : Disk) : Prop :=
  ∀ path ∈ plan.form :: arguments.configPaths environment, after.find path = before.find path

theorem Arguments.Reads.again {arguments : Arguments} {environment : Environment}
    {before after : Disk} {plan : Plan} {definition : FormDefinition} {file reopened : AnswerFile}
    (reads : arguments.Reads environment before plan definition file)
    (finds : arguments.FindsAgain environment plan before after)
    (opened : AnswerFile.load after plan.answers = .ok reopened) :
    arguments.Reads environment after plan definition reopened := by
  refine ⟨?_, ?_, opened⟩
  · rw [arguments.plan_congr environment before after]
    · exact reads.planned
    · exact fun path listed => finds path (List.mem_cons_of_mem _ listed)
  · rw [FormDefinition.load_congr before after]
    · exact reads.defined
    · exact finds plan.form (by simp)

theorem open_workspace_beside (environment : Environment) (disk : Disk) :
    disk.QuietBeside (openWorkspace environment disk).2.disk
        (Journal.placeIn? environment disk) ∧
      (openWorkspace environment disk).2.KeptAt (Journal.placeIn? environment disk) := by
  obtain ⟨quiet, placed⟩ := Journal.start_beside environment disk
  have file := Journal.start_file environment disk
  unfold openWorkspace
  generalize Journal.start environment disk = started at quiet placed file ⊢
  obtain ⟨outcome, ready⟩ := started
  cases outcome with
  | error failure => exact ⟨quiet, by simp [Workspace.KeptAt]⟩
  | ok journal =>
      refine ⟨quiet, ?_⟩
      intro other isKept
      cases isKept
      exact ⟨placed journal rfl, file ready journal rfl⟩

/-- Neither the form of a plan nor its answers are the journal. -/
def Plan.SparesJournal (plan : Plan) (environment : Environment) (disk : Disk) : Prop :=
  ∀ path ∈ [plan.form, plan.answers],
    some (disk.placeOf path) ≠ Journal.placeIn? environment disk

theorem Plan.SparesJournal.later {plan : Plan} {environment : Environment} {before after : Disk}
    (spares : plan.SparesJournal environment before) (extended : before.Extends after) :
    plan.SparesJournal environment after := by
  intro path listed
  rw [extended.placeOf path, Journal.place_in_extends extended]
  exact spares path listed

theorem Plan.SparesJournal.apart {plan : Plan} {environment : Environment} {disk : Disk}
    (spares : plan.SparesJournal environment disk) :
    ∀ path ∈ [plan.form, plan.answers], (openWorkspace environment disk).2.Apart path := by
  intro path listed
  obtain ⟨quiet, kept⟩ := open_workspace_beside environment disk
  apply kept.apart path
  rw [quiet.placeOf path]
  exact spares path listed

def bindAnswers (definition : FormDefinition) (path : Path) (workspace : Workspace) :
    Attempted BoundForm × Workspace :=
  let looked :=
    if workspace.disk.contains path then workspace else workspace.note (.answersMissing path)
  match during .loadAnswers (AnswerFile.load workspace.disk path) with
  | .error failure => (.error failure, looked)
  | .ok file =>
      let bound : BoundForm := ⟨definition.bindTo (.onDisk file), file⟩
      (.ok bound, looked.noteAll bound.discardEvents)

theorem bind_answers_opened (definition : FormDefinition) (path : Path) (workspace : Workspace)
    (file : AnswerFile) (apart : workspace.Apart path)
    (opened : AnswerFile.load workspace.disk path = .ok file) :
    ∃ after, bindAnswers definition path workspace =
        (.ok ⟨definition.bindTo (.onDisk file), file⟩, after) ∧
      workspace.Notes after path := by
  have looked : workspace.Notes (if workspace.disk.contains path then workspace
      else workspace.note (.answersMissing path)) path := by
    split
    · exact Workspace.Notes.refl workspace path
    · exact workspace.note_notes _ path apart
  unfold bindAnswers
  rw [opened]
  refine ⟨_, rfl, looked.trans ?_⟩
  apply Workspace.note_all_notes
  exact apart.extend looked.journal looked.alike.extends

theorem Plan.open_defined (plan : Plan) (workspace : Workspace) (definition : FormDefinition)
    (defined : FormDefinition.load
      (workspace.note (.resolvedPaths plan.form plan.answers)).disk plan.form = .ok definition) :
    plan.open workspace = bindAnswers definition plan.answers
      (workspace.note (.resolvedPaths plan.form plan.answers)) := by
  unfold Plan.open
  simp only [defined]
  rfl

def Outcome.ofAnswered (warning : Option Failure) (answered : Answered) : Outcome :=
  match answered.shown with
  | .error failure => { warning, ending := .failed failure, disk := answered.workspace.disk }
  | .ok text => { printed := text ++ "\n", warning, disk := answered.workspace.disk }

/-- A run that answers a question, from where its journal is open and its form is known. -/
def answerDefined (definition : FormDefinition) (form answers : Path)
    (started : Option Failure × Workspace) (question : String) (operation : Operation) : Outcome :=
  match bindAnswers definition answers (started.2.note (.resolvedPaths form answers)) with
  | (.error failure, after) =>
      { warning := started.1, ending := .failed failure, disk := after.disk }
  | (.ok bound, after) =>
      .ofAnswered started.1 (bound.form.answer (.onDisk bound.file) after question operation)

theorem Arguments.answer_defined (arguments : Arguments) (environment : Environment) (disk : Disk)
    (question : String) (operation : Operation) (plan : Plan) (definition : FormDefinition)
    (planned : arguments.plan environment (openWorkspace environment disk).2.disk = .ok plan)
    (defined : FormDefinition.load ((openWorkspace environment disk).2.note
      (.resolvedPaths plan.form plan.answers)).disk plan.form = .ok definition) :
    arguments.answer environment disk question operation =
      answerDefined definition plan.form plan.answers (openWorkspace environment disk) question
        operation := by
  unfold Arguments.answer Arguments.openForm answerDefined
  simp only [planned, plan.open_defined _ definition defined]
  generalize bindAnswers definition plan.answers ((openWorkspace environment disk).2.note
    (.resolvedPaths plan.form plan.answers)) = opened
  obtain ⟨outcome, after⟩ := opened
  cases outcome with
  | error failure => rfl
  | ok bound =>
      cases shown : (bound.form.answer (.onDisk bound.file) after question operation).shown <;>
        simp only [Except.map, Outcome.ofAnswered, shown]

/-- A run that answers a question binds the definition that it reads to the answers that it reads.
-/
theorem Arguments.Reads.answer {arguments : Arguments} {environment : Environment} {disk : Disk}
    {plan : Plan} {definition : FormDefinition} {file : AnswerFile}
    (reads : arguments.Reads environment (openWorkspace environment disk).2.disk plan definition
      file)
    (spares : plan.SparesJournal environment disk) (question : String) (operation : Operation) :
    ∃ after, (openWorkspace environment disk).2.Notes after plan.answers ∧
      arguments.answer environment disk question operation =
        .ofAnswered (openWorkspace environment disk).1
          ((definition.bindTo (.onDisk file)).answer (.onDisk file) after question operation) := by
  have apart := spares.apart plan.answers (by simp)
  have begun := Workspace.note_notes _ (.resolvedPaths plan.form plan.answers) plan.answers apart
  have begunForm := Workspace.note_notes _ (.resolvedPaths plan.form plan.answers) plan.form
    (spares.apart plan.form (by simp))
  have defined := (FormDefinition.load_congr _ _ _ begunForm.find).trans reads.defined
  have opened := (AnswerFile.load_congr _ _ _ begun.find).trans reads.opened
  obtain ⟨after, opens, notes⟩ := bind_answers_opened definition plan.answers _ file
    (apart.extend begun.journal begun.alike.extends) opened
  refine ⟨after, begun.trans notes, ?_⟩
  rw [arguments.answer_defined environment disk question operation plan definition reads.planned
    defined, answerDefined, opens]

end CommandLine

end CounterForms
