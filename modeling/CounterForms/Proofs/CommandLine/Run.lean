import CounterForms.CommandLine.Run
import CounterForms.Proofs.CommandLine.Answer

/-!
How runs of the program begin. Whatever a command line says, a run that fills in a form or answers a
question has loaded a checked definition and the answers at a path, and has bound the one to the
other; what it noted on the way has changed neither. So what is proved about commands and sessions
from such a beginning holds of the runs of the program.
-/

namespace CounterForms

theorem FormDefinition.load_checked (disk : Disk) (path : Path) (definition : FormDefinition)
    (loaded : FormDefinition.load disk path = .ok definition) : definition.check = .ok () := by
  unfold FormDefinition.load at loaded
  cases text : during (.readFile path) (orFail .storage (disk.readText path)) with
  | error failure =>
      rw [text] at loaded
      cases loaded
  | ok content =>
      rw [text] at loaded
      cases read : during (.parseFile path)
          (orFail .document (FormDefinition.ofText content)) with
      | error failure =>
          simp only [read, bind, Except.bind] at loaded
          cases loaded
      | ok found =>
          simp only [read, bind, Except.bind] at loaded
          cases judged : found.check with
          | error fault =>
              simp only [judged, orFail, failBy, during] at loaded
              cases loaded
          | ok _ =>
              simp only [judged, orFail, during] at loaded
              cases loaded
              exact judged

namespace CommandLine

/-- A beginning of a run: a checked definition is bound to the answers at a path, which the disk
still holds. -/
structure Begins (bound : BoundForm) (path : Path) (workspace : Workspace)
    (definition : FormDefinition) : Prop where
  checked : definition.check = .ok ()
  form : bound.form = definition.bindTo (.onDisk bound.file)
  opened : AnswerFile.load workspace.disk path = .ok bound.file

/-- Opening the files of a plan is a beginning, and leaves a journal apart that was apart. -/
theorem open_begins (plan : Plan) (workspace after : Workspace) (bound : BoundForm)
    (apart : workspace.Apart plan.answers) (opened : plan.open workspace = (.ok bound, after)) :
    workspace.Notes after plan.answers ∧
      ∃ definition, Begins bound plan.answers after definition := by
  have begun := workspace.note_notes (.resolvedPaths plan.form plan.answers) plan.answers apart
  have begunApart := apart.extend begun.journal begun.alike.extends
  unfold Plan.open at opened
  dsimp only at opened
  generalize workspace.note (.resolvedPaths plan.form plan.answers) = noted
    at begun begunApart opened
  cases defined : FormDefinition.load noted.disk plan.form with
  | error failure =>
      rw [defined] at opened
      cases opened
  | ok definition =>
      rw [defined] at opened
      cases loaded : AnswerFile.load noted.disk plan.answers with
      | error failure =>
          rw [loaded] at opened
          cases opened
      | ok file =>
          rw [loaded] at opened
          obtain ⟨isBound, isAfter⟩ := Prod.mk.inj opened
          cases Except.ok.inj isBound
          have looked : noted.Notes (if noted.disk.contains plan.answers then noted
              else noted.note (.answersMissing plan.answers)) plan.answers := by
            split
            · exact Workspace.Notes.refl noted _
            · exact noted.note_notes _ _ begunApart
          have last := looked.trans (Workspace.note_all_notes _
            (BoundForm.discardEvents ⟨definition.bindTo (.onDisk file), file⟩) _
            (begunApart.extend looked.journal looked.alike.extends))
          rw [isAfter] at last
          refine ⟨begun.trans last, definition, ?_, rfl, ?_⟩
          · exact FormDefinition.load_checked _ _ definition defined
          · rw [AnswerFile.load_congr noted.disk after.disk _ last.find]
            exact loaded

/-- A run of the program that answers a question leaves the disk that the command leaves. -/
theorem answer_disk (arguments : Arguments) (environment : Environment) (disk : Disk)
    (question : String) (operation : Operation) (plan : Plan) (bound : BoundForm)
    (after : Workspace)
    (planned : arguments.plan environment (openWorkspace environment disk).2.disk = .ok plan)
    (apart : (openWorkspace environment disk).2.Apart plan.answers)
    (opened : plan.open (openWorkspace environment disk).2 = (.ok bound, after)) :
    ∃ definition, Begins bound plan.answers after definition ∧
      (arguments.answer environment disk question operation).disk =
        (definition.answerOnce plan.answers after (question, operation)).2.disk := by
  obtain ⟨-, definition, begins⟩ := open_begins plan _ after bound apart opened
  refine ⟨definition, begins, ?_⟩
  unfold FormDefinition.answerOnce
  rw [begins.opened]
  unfold Arguments.answer Arguments.openForm
  simp only [planned, opened, Except.map, begins.form]
  generalize (definition.bindTo (.onDisk bound.file)).answer (.onDisk bound.file) after question
    operation = answered
  cases answered.shown <;> rfl

/-- A run of the program that fills in a form starts its session from a beginning. -/
theorem fill_starts (arguments : Arguments) (environment : Environment) (disk : Disk)
    (plan : Plan) (warning : Option Failure) (session : Session)
    (planned : arguments.plan environment (openWorkspace environment disk).2.disk = .ok plan)
    (apart : (openWorkspace environment disk).2.Apart plan.answers)
    (filling : arguments.fill environment disk = .filling warning session) :
    ∃ bound after definition, Begins bound plan.answers after definition ∧
      after.Apart plan.answers ∧
      Session.start plan.config (definition.bindTo (.onDisk bound.file)) (.onDisk bound.file)
        after = .ok session := by
  unfold Arguments.fill Arguments.openForm at filling
  simp only [planned] at filling
  cases opened : plan.open (openWorkspace environment disk).2 with
  | mk outcome after =>
      simp only [opened] at filling
      cases outcome with
      | error failure => cases filling
      | ok bound =>
          obtain ⟨notes, definition, begins⟩ := open_begins plan _ after bound apart opened
          simp only [Except.map] at filling
          cases started : Session.start plan.config bound.form (.onDisk bound.file) after with
          | error failure =>
              simp only [started] at filling
              cases filling
          | ok begun =>
              simp only [started] at filling
              cases filling
              exact ⟨bound, after, definition, begins,
                apart.extend notes.journal notes.alike.extends, begins.form ▸ started⟩

end CommandLine

end CounterForms
