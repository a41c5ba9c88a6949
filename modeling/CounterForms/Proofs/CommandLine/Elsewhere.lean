import CounterForms.Proofs.CommandLine.Reading
import CounterForms.Proofs.CommandLine.Reply

/-!
What a run that answers a question does to the rest of the disk. A run that looks, or that fails
before it writes, writes the journal at most, and any other run its answers as well. So the form and
the configuration are found again as they were, as long as they are files of their own.
-/

namespace CounterForms

open Storage

namespace AnswerFile

theorem flush_unwritten (file : AnswerFile) (disk : Disk) (failure : Failure)
    (failed : (file.flush disk).written = .error failure)
    (unwritten : ∀ path, failure.attempts.head? ≠ some (.writeFile path)) :
    disk.Quiet (file.flush disk).disk := by
  have prepared := make_parent_quiet disk file.path
  unfold flush at failed ⊢
  split
  · exact Disk.Quiet.refl disk
  next busy =>
    rw [if_neg busy] at failed
    split
    next fault after made =>
      rw [made] at prepared
      exact prepared
    next ready made =>
      rw [made] at failed
      dsimp only at failed
      split at failed
      next fault after wrote =>
        cases failed
        exact absurd rfl (unwritten file.path)
      next after wrote => cases failed

end AnswerFile

theorem AnswerSource.keep_form_unwritten (file : AnswerFile) (form : Form) (workspace : Workspace)
    (exempt : Option Place) (failure : Failure)
    (failed : ((AnswerSource.onDisk file).keepForm form workspace).result = .error failure)
    (unwritten : ∀ path, failure.attempts.head? ≠ some (.writeFile path)) :
    workspace.Journals ((AnswerSource.onDisk file).keepForm form workspace).workspace exempt := by
  unfold keepForm at failed ⊢
  dsimp only at failed ⊢
  split
  next dirty =>
    rw [if_pos dirty, set_answers_on_disk] at failed
    rw [set_answers_on_disk]
    have quiet := (file.setAnswers form.answers).flush_unwritten workspace.disk
    unfold keep AnswerSource.flush at failed ⊢
    dsimp only at failed ⊢
    generalize (file.setAnswers form.answers).flush workspace.disk = flushed at failed quiet ⊢
    obtain ⟨written, after, disk⟩ := flushed
    cases written with
    | ok wrote => cases wrote <;> cases failed
    | error fault =>
        cases failed
        exact ⟨rfl, (quiet failure rfl unwritten).beside exempt⟩
  next => exact Workspace.Journals.refl workspace exempt

/-- A command that looks, or that fails before it writes, touches the journal at most. -/
theorem Form.answer_journals (form : Form) (file : AnswerFile) (workspace : Workspace)
    (exempt : Option Place) (kept : workspace.KeptAt exempt) (name : String)
    (operation : Operation)
    (spared : operation = .look ∨
      ∃ failure, (form.answer (.onDisk file) workspace name operation).shown = .error failure ∧
        ∀ path, failure.attempts.head? ≠ some (.writeFile path)) :
    workspace.Journals (form.answer (.onDisk file) workspace name operation).workspace exempt := by
  have answers := form.answer_answers (.onDisk file) workspace name operation
  generalize form.answer (.onDisk file) workspace name operation = answered at answers spared ⊢
  cases answers with
  | refrained refrains events => exact workspace.note_all_journals events kept
  | wrote writes text replied events =>
      have noted := workspace.note_all_journals events kept
      apply noted.trans
      rcases spared with look | ⟨failure, failed, unwritten⟩
      · obtain ⟨question, -, -, changes⟩ := writes
        exact absurd look changes
      · generalize result :
          ((AnswerSource.onDisk file).keepForm (form.obey (name, operation))
            (workspace.noteAll events)).result = outcome at failed
        cases outcome with
        | ok _ => cases failed
        | error fault =>
            cases failed
            exact AnswerSource.keep_form_unwritten file _ _ exempt failure result unwritten

theorem AnswerSource.keep_keeps (file : AnswerFile) (workspace : Workspace) (exempt : Option Place)
    (kept : workspace.KeptAt exempt) (place : Place) (elsewhere : some place ≠ exempt)
    (apart : place ≠ workspace.disk.placeOf file.path) :
    workspace.disk.Keeps ((AnswerSource.onDisk file).keep workspace).workspace.disk place := by
  have flushes := (file.flush_beside workspace.disk).keeps place (by simpa using apart)
  unfold keep AnswerSource.flush
  dsimp only
  generalize file.flush workspace.disk = flushed at flushes ⊢
  obtain ⟨written, after, disk⟩ := flushed
  dsimp only at flushes ⊢
  split
  · exact flushes
  · exact flushes
  · have later : Workspace.KeptAt { workspace with disk := disk } exempt :=
      kept.extend rfl flushes.toExtends
    exact flushes.trans ((Workspace.note_all_journals _ _ later).quiet.keeps place elsewhere)

/-- A command, whatever it does, writes the file of the answers and the journal at most. -/
theorem Form.answer_keeps (form : Form) (file : AnswerFile) (workspace : Workspace)
    (exempt : Option Place) (kept : workspace.KeptAt exempt) (name : String)
    (operation : Operation) (place : Place) (elsewhere : some place ≠ exempt)
    (apart : place ≠ workspace.disk.placeOf file.path) :
    workspace.disk.Keeps (form.answer (.onDisk file) workspace name operation).workspace.disk
      place := by
  have answers := form.answer_answers (.onDisk file) workspace name operation
  generalize form.answer (.onDisk file) workspace name operation = answered at answers ⊢
  cases answers with
  | refrained refrains events =>
      exact (workspace.note_all_journals events kept).quiet.keeps place elsewhere
  | wrote writes text replied events =>
      have noted := workspace.note_all_journals events kept
      have spared := noted.quiet.keeps place elsewhere
      refine spared.trans ?_
      unfold AnswerSource.keepForm
      dsimp only
      split
      · rw [AnswerSource.set_answers_on_disk]
        apply AnswerSource.keep_keeps _ _ exempt (kept.later noted) place elsewhere
        rwa [AnswerFile.set_answers_path, noted.quiet.placeOf]
      · exact ⟨Disk.Extends.refl _, rfl⟩

namespace CommandLine

theorem Plan.open_journals (plan : Plan) (workspace : Workspace) (exempt : Option Place)
    (kept : workspace.KeptAt exempt) : workspace.Journals (plan.open workspace).2 exempt := by
  have begun := workspace.note_journals (.resolvedPaths plan.form plan.answers) kept
  unfold Plan.open
  dsimp only
  generalize workspace.note (.resolvedPaths plan.form plan.answers) = noted at begun ⊢
  cases FormDefinition.load noted.disk plan.form with
  | error failure => exact begun
  | ok definition =>
      have looked : workspace.Journals (if noted.disk.contains plan.answers then noted
          else noted.note (.answersMissing plan.answers)) exempt := by
        split
        · exact begun
        · exact begun.trans (noted.note_journals _ (kept.later begun))
      dsimp only
      split
      · exact looked
      · exact looked.trans (Workspace.note_all_journals _ _ (kept.later looked))

theorem Arguments.open_form_journals (arguments : Arguments) (environment : Environment)
    (workspace : Workspace) (exempt : Option Place) (kept : workspace.KeptAt exempt) :
    workspace.Journals (arguments.openForm environment workspace).2 exempt := by
  unfold Arguments.openForm
  cases arguments.plan environment workspace.disk with
  | error failure => exact Workspace.Journals.refl workspace exempt
  | ok plan => exact plan.open_journals workspace exempt kept

/-- A run that failed, but not when it wrote a file. -/
def Outcome.FailsUnwritten (outcome : Outcome) : Prop :=
  ∃ failure, outcome.ending = .failed failure ∧
    ∀ path, failure.attempts.head? ≠ some (.writeFile path)

theorem answer_beside (arguments : Arguments) (environment : Environment) (disk : Disk)
    (question : String) (operation : Operation)
    (spared : operation = .look ∨
      (arguments.answer environment disk question operation).FailsUnwritten) :
    disk.QuietBeside (arguments.answer environment disk question operation).disk
      (Journal.placeIn? environment disk) := by
  obtain ⟨started, kept⟩ := open_workspace_beside environment disk
  have opened := arguments.open_form_journals environment _ _ kept
  unfold Arguments.answer at spared ⊢
  dsimp only at spared ⊢
  generalize arguments.openForm environment (openWorkspace environment disk).2 = formed
    at opened spared ⊢
  obtain ⟨outcome, after⟩ := formed
  cases outcome with
  | error failure => exact started.trans opened.quiet
  | ok found =>
      dsimp only at opened spared ⊢
      have answered := found.2.form.answer_journals found.2.file after
        (Journal.placeIn? environment disk) (kept.later opened) question operation
      generalize found.2.form.answer (.onDisk found.2.file) after question operation = result
        at spared answered ⊢
      obtain ⟨shown, source, last⟩ := result
      have whole := started.trans opened.quiet
      cases shown with
      | error failure =>
          refine whole.trans (answered (spared.imp id ?_)).quiet
          rintro ⟨fault, ended, unwritten⟩
          cases ended
          exact ⟨failure, rfl, unwritten⟩
      | ok text =>
          refine whole.trans (answered (spared.imp id ?_)).quiet
          rintro ⟨fault, ended, -⟩
          cases ended

theorem Plan.open_path (plan : Plan) (workspace after : Workspace) (bound : BoundForm)
    (opened : plan.open workspace = (.ok bound, after)) : bound.file.path = plan.answers := by
  unfold Plan.open at opened
  dsimp only at opened
  split at opened
  · cases opened
  · generalize read : AnswerFile.load _ plan.answers = outcome at opened
    cases outcome with
    | error failure => cases opened
    | ok file =>
        cases opened
        rw [(AnswerFile.load_ok _ _ file read).1]

theorem Arguments.open_form_path (arguments : Arguments) (environment : Environment)
    (workspace after : Workspace) (plan : Plan) (found : Config × BoundForm)
    (planned : arguments.plan environment workspace.disk = .ok plan)
    (opened : arguments.openForm environment workspace = (.ok found, after)) :
    found.2.file.path = plan.answers := by
  unfold Arguments.openForm at opened
  rw [planned] at opened
  dsimp only at opened
  generalize bound : plan.open workspace = result at opened
  obtain ⟨outcome, last⟩ := result
  cases outcome with
  | error failure => cases opened
  | ok form =>
      cases opened
      exact plan.open_path workspace last form bound

/-- A run that answers a question, however it ends, writes its answers and the journal at most. -/
theorem Arguments.answer_keeps (arguments : Arguments) (environment : Environment) (disk : Disk)
    (question : String) (operation : Operation) (plan : Plan)
    (planned : arguments.plan environment (openWorkspace environment disk).2.disk = .ok plan)
    (place : Place) (elsewhere : some place ≠ Journal.placeIn? environment disk)
    (apart : place ≠ disk.placeOf plan.answers) :
    disk.Keeps (arguments.answer environment disk question operation).disk place := by
  obtain ⟨started, kept⟩ := open_workspace_beside environment disk
  have opened := arguments.open_form_journals environment _ _ kept
  have located := arguments.open_form_path environment (openWorkspace environment disk).2
  unfold Arguments.answer
  dsimp only
  generalize arguments.openForm environment (openWorkspace environment disk).2 = formed
    at opened located ⊢
  obtain ⟨outcome, after⟩ := formed
  have whole := (started.trans opened.quiet).keeps place elsewhere
  cases outcome with
  | error failure => exact whole
  | ok found =>
      have answered := found.2.form.answer_keeps found.2.file after _ (kept.later opened) question
        operation place elsewhere (by rwa [located after plan found planned rfl, whole.placeOf])
      dsimp only
      split <;> exact whole.trans answered

/-- A file lies at a path, and it is neither the answers of a plan nor the journal. -/
def Plan.FileBeside (plan : Plan) (environment : Environment) (disk : Disk) (path : Path) : Prop :=
  (∃ bytes, disk.find path = .ok (.file bytes)) ∧
    disk.placeOf path ≠ disk.placeOf plan.answers ∧
    some (disk.placeOf path) ≠ Journal.placeIn? environment disk

/-- A file beside the answers and the journal is found by the next run as it was by this one. -/
theorem Plan.FileBeside.found_again {plan : Plan} {environment : Environment} {disk : Disk}
    {path : Path} (beside : plan.FileBeside environment disk path) (arguments : Arguments)
    (planned : arguments.plan environment (openWorkspace environment disk).2.disk = .ok plan)
    (question : String) (operation : Operation) :
    (openWorkspace environment
        (arguments.answer environment disk question operation).disk).2.disk.find path =
      (openWorkspace environment disk).2.disk.find path := by
  obtain ⟨⟨bytes, found⟩, apart, elsewhere⟩ := beside
  have ran := arguments.answer_keeps environment disk question operation plan planned _ elsewhere
    apart
  have elsewhereAfter : some (disk.placeOf path) ≠ Journal.placeIn? environment
      (arguments.answer environment disk question operation).disk := by
    rwa [Journal.place_in_extends ran.toExtends]
  have started := (open_workspace_beside environment disk).1.keeps _ elsewhere
  have restarted := (open_workspace_beside environment _).1.keeps _ elsewhereAfter
  rw [started.find found, (ran.trans restarted).find found]

/-- Each path that a run looks at for its form and its configuration leads to a file beside the
answers and the journal, or to what it led to before. -/
def Arguments.KeepsInputs (arguments : Arguments) (environment : Environment) (plan : Plan)
    (disk : Disk) (last : Disk) : Prop :=
  ∀ path ∈ plan.form :: arguments.configPaths environment,
    plan.FileBeside environment disk path ∨
      (openWorkspace environment last).2.disk.find path =
        (openWorkspace environment disk).2.disk.find path

theorem Arguments.KeepsInputs.finds_again {arguments : Arguments} {environment : Environment}
    {plan : Plan} {disk : Disk} {question : String} {operation : Operation}
    (keeps : arguments.KeepsInputs environment plan disk
      (arguments.answer environment disk question operation).disk)
    (planned : arguments.plan environment (openWorkspace environment disk).2.disk = .ok plan) :
    arguments.FindsAgain environment plan (openWorkspace environment disk).2.disk
      (openWorkspace environment
        (arguments.answer environment disk question operation).disk).2.disk := by
  intro path listed
  rcases keeps path listed with beside | same
  · exact beside.found_again arguments planned question operation
  · exact same

end CommandLine

end CounterForms
