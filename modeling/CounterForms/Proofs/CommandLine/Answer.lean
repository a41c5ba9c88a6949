import CounterForms.CommandLine.Answer
import CounterForms.Proofs.Answers.Surviving

/-!
Commands on single questions. Each command reads the answers anew, and either leaves them alone or
writes the form with the question changed. What the file held for questions that no command was to
change survives any number of commands, whether they succeed or fail.
-/

namespace CounterForms

namespace Form

theorem index_of_some (form : Form) (name : String) (index : Nat)
    (found : form.indexOf? name = some index) :
    ∃ question, form.question? index = some question ∧ question.name = name := by
  obtain ⟨inside, named, -⟩ := List.findIdx?_eq_some_iff_getElem.mp found
  exact ⟨form.questions[index], List.getElem?_eq_getElem inside, by simpa using named⟩

theorem index_of_none (form : Form) (name : String) (missing : form.indexOf? name = none) :
    name ∉ form.names := by
  intro named
  obtain ⟨question, member, rfl⟩ := List.mem_map.mp named
  have other := List.findIdx?_eq_none_iff.mp missing question member
  simp at other

theorem modify_congr (form : Form) (index : Nat) (question : Question)
    (there : form.question? index = some question) (one other : Question → Question)
    (same : one question = other question) : form.modify index one = form.modify index other := by
  simp only [modify, mk.injEq, true_and]
  apply List.ext_getElem?
  intro place
  rw [List.getElem?_modify, List.getElem?_modify]
  by_cases here : index = place
  · subst here
    have held : form.questions[index]? = some question := there
    simp [held, same]
  · simp [here]

inductive Performs (form : Form) (source : AnswerSource) (workspace : Workspace) (name : String)
    (operation : Operation) : Answered → Prop
  | unknown (absent : name ∉ form.names) :
      Performs form source workspace name operation
        ⟨failBy (.unknownQuestion name form.title), source, workspace⟩
  | refused {index : Nat} {question : Question} (found : form.indexOf? name = some index)
      (there : form.question? index = some question) (readOnly : question.readOnly = true) :
      Performs form source workspace name operation
        ⟨failBy (.readOnly ⟨name⟩), source, workspace⟩
  | looked (look : operation = .look) (shown : String) (events : List LogEvent) :
      Performs form source workspace name operation
        ⟨.ok shown, source, workspace.noteAll events⟩
  | changed {index : Nat} {question : Question} (found : form.indexOf? name = some index)
      (there : form.question? index = some question) (named : question.name = name)
      (editable : question.readOnly = false) (changes : operation ≠ .look) (shown : String)
      (events : List LogEvent) :
      Performs form source workspace name operation
        ⟨(source.keepForm (form.modify index operation.perform)
            (workspace.noteAll events)).result.map fun _ => shown,
          (source.keepForm (form.modify index operation.perform)
            (workspace.noteAll events)).source,
          (source.keepForm (form.modify index operation.perform)
            (workspace.noteAll events)).workspace⟩

theorem answer_performs (form : Form) (source : AnswerSource) (workspace : Workspace)
    (name : String) (operation : Operation) :
    form.Performs source workspace name operation
      (form.answer source workspace name operation) := by
  unfold answer
  cases found : form.indexOf? name with
  | none => exact .unknown (form.index_of_none name found)
  | some index =>
      obtain ⟨question, there, named⟩ := form.index_of_some name index found
      simp only [there]
      by_cases refuses : (question.readOnly && operation != .look) = true
      · have failed : form.perform index operation question = failBy (.readOnly ⟨name⟩) := by
          rw [perform, Question.apply, if_pos refuses, ← named]
          rfl
        rw [failed]
        simp only [Bool.and_eq_true] at refuses
        exact .refused found there refuses.1
      · have done : form.perform index operation question =
            .ok (form.modify index operation.perform, operation.perform question) := by
          rw [perform, Question.apply, if_neg refuses,
            form.modify_congr index question there operation.perform
              (fun _ => operation.perform question) rfl]
          rfl
        rw [done]
        dsimp only
        split
        next look => exact .looked look _ _
        next changes =>
          have editable : question.readOnly = false := by simpa [changes] using refuses
          exact .changed found there named editable changes _ _

end Form

/-- A command on one question of a definition: the answers are read anew and bound before it is
performed. Gives what it shows and the workspace. -/
def FormDefinition.answerOnce (definition : FormDefinition) (path : Path) (workspace : Workspace)
    (command : String × Operation) : Attempted String × Workspace :=
  match AnswerFile.load workspace.disk path with
  | .error failure => (.error failure, workspace)
  | .ok file =>
      let answered := (definition.bindTo (.onDisk file)).answer (.onDisk file) workspace
        command.1 command.2
      (answered.shown, answered.workspace)

/-- Commands one after the other. Gives what each of them shows and the workspace in the end. -/
def FormDefinition.answerEach (definition : FormDefinition) (path : Path) :
    Workspace → List (String × Operation) → List (Attempted String) × Workspace
  | workspace, [] => ([], workspace)
  | workspace, command :: later =>
      let (shown, after) := definition.answerOnce path workspace command
      let (others, last) := definition.answerEach path after later
      (shown :: others, last)

/-- The names of the questions that commands are to change. -/
def commandTargets (commands : List (String × Operation)) : List String :=
  (commands.filter fun command => command.2 != .look).map Prod.fst

namespace Opening

variable {opening : Opening} {Allowed : Form → Prop}

theorem Tracks.keep_form {source : AnswerSource} {workspace : Workspace} {saved : Option Form}
    (tracks : opening.Tracks Allowed source workspace saved) (form : Form)
    (fills : form.Fills opening.definition) (allowed : Allowed form) :
    opening.Tracks Allowed (source.keepForm form workspace).source
      (source.keepForm form workspace).workspace
      (lastSaved (source.keepForm form workspace).result form saved) := by
  have written := tracks.keep form fills allowed
  obtain ⟨journal, larger, file, rfl, located, beside, stands⟩ := tracks
  unfold AnswerSource.keepForm
  dsimp only
  split
  · exact written
  next clean =>
    rw [AnswerSource.set_answers_on_disk] at clean ⊢
    have isClean : (file.setAnswers form.answers).dirty = false :=
      Bool.eq_false_iff.mpr clean
    obtain ⟨still, holds⟩ := (file.set_form_clean_iff form).mp isClean
    rw [file.set_answers_clean form.answers isClean]
    exact ⟨journal, larger, file, rfl, located, beside, stands.skip allowed holds still⟩

/-- A command carries along what the file held for the questions that it was not to change. -/
theorem carries_performed (opening : Opening) (targets : List String) (name : String)
    (operation : Operation) (targeted : operation ≠ .look → name ∈ targets) (answered : Answered)
    (performs : opening.form.Performs (.onDisk opening.file) opening.workspace name operation
      answered) :
    opening.Carries targets answered.workspace := by
  have begun := opening.tracks_start
    fun form => form.Fills opening.definition ∧ opening.form.Spares form targets
  have bound : opening.form.Fills opening.definition :=
    Form.bind_fills opening.definition (AnswerSource.answer? (.onDisk opening.file))
  have noted (events : List LogEvent) :=
    begun.notes (opening.workspace.note_all_notes events opening.path opening.apart)
  cases performs with
  | unknown absent => exact begun.carries
  | refused found there readOnly => exact begun.carries
  | looked look shown events => exact (noted events).carries
  | @changed index question found there named editable changes shown events =>
      have fills := bound.modify index operation.perform (Question.operation_keeps operation)
      have spares : opening.form.Spares (opening.form.modify index operation.perform) targets := by
        apply Form.modify_spares
        intro other held spared
        rw [there] at held
        cases Option.some.inj held
        rcases spared with readOnly | absent
        · rw [editable] at readOnly
          cases readOnly
        · exact absurd (named ▸ targeted changes) absent
      exact ((noted events).keep_form _ fills ⟨fills, spares⟩).carries

def reopen (opening : Opening) (workspace : Workspace) (file : AnswerFile)
    (journal : workspace.journal = opening.workspace.journal)
    (larger : opening.workspace.disk.Extends workspace.disk)
    (opened : AnswerFile.load workspace.disk opening.path = .ok file) : Opening where
  definition := opening.definition
  path := opening.path
  workspace := workspace
  file := file
  checked := opening.checked
  opened := opened
  spares := larger.sparesFiles opening.spares
  apart := opening.apart.extend journal larger

theorem opened_same (opening : Opening)
    (settled : opening.workspace.disk.Settled opening.path) (disk : Disk)
    (larger : opening.workspace.disk.Extends disk)
    (same : opening.workspace.disk.SameFile disk opening.path) (file : AnswerFile)
    (opened : AnswerFile.load disk opening.path = .ok file) :
    file.ledger = opening.file.ledger := by
  rcases (AnswerFile.load_ok _ _ _ opening.opened).2.2 with ⟨missing, isEmpty⟩ | ⟨bytes, there⟩
  · rcases (AnswerFile.load_ok _ _ _ opened).2.2 with ⟨-, nothing⟩ | ⟨bytes, there⟩
    · rw [nothing, isEmpty]
    · have held := Disk.find_file_bytes there
      rw [larger.placeOf opening.path, same, settled missing] at held
      cases held
  · have found := larger.find_same there same
    rw [AnswerFile.load_congr opening.workspace.disk _ _ (found.trans there.symm),
      opening.opened] at opened
    cases opened
    rfl

/-- What a later command finds in the file for the questions that were to be spared. -/
theorem Carries.found {targets : List String} {workspace : Workspace}
    (carries : opening.Carries targets workspace)
    (settled : opening.workspace.disk.Settled opening.path) (file : AnswerFile)
    (opened : AnswerFile.load workspace.disk opening.path = .ok file) :
    ∀ declaration ∈ opening.definition.questions,
      declaration.readOnly = true ∨ declaration.name ∉ targets →
      ¬StoredAnswer.BinaryCount (opening.file.ledger.get? declaration.name) →
      StoredAnswer.Survives (opening.file.ledger.get? declaration.name)
        (file.ledger.get? declaration.name) := by
  intro declaration declared spared plain
  rcases carries.carried with same | ⟨form, ledger, fills, holds, found, survives⟩
  · left
    rw [opening.opened_same settled workspace.disk carries.larger same file opened]
  · rw [AnswerFile.load_text _ _ _ found] at opened
    cases read : AnswerLedger.ofText ledger.text with
    | error failure =>
        rw [read] at opened
        cases opened
    | ok again =>
        rw [read] at opened
        cases opened
        have named : declaration.name ∈ form.names :=
          fills.names ▸ List.mem_map.mpr ⟨declaration, declared, rfl⟩
        obtain ⟨question, member, same⟩ := List.mem_map.mp named
        have before := holds question member
        have after := AnswerLedger.reread_holds ledger again form holds read question member
        rw [same] at before after
        have kept := survives declaration declared spared plain
        rw [before] at kept
        dsimp only
        rw [after]
        exact kept

theorem Carries.answer_once {targets : List String} {workspace : Workspace}
    (carries : opening.Carries targets workspace)
    (settled : opening.workspace.disk.Settled opening.path)
    (command : String × Operation) (targeted : command.2 ≠ .look → command.1 ∈ targets) :
    opening.Carries targets
      (opening.definition.answerOnce opening.path workspace command).2 := by
  unfold FormDefinition.answerOnce
  cases opened : AnswerFile.load workspace.disk opening.path with
  | error failure => exact carries
  | ok file =>
      -- The command starts from an opening of its own, on the disk as the earlier ones left it.
      let next := opening.reopen workspace file carries.journal carries.larger opened
      have performs := next.form.answer_performs (.onDisk file) workspace command.1 command.2
      have step := next.carries_performed targets command.1 command.2 targeted _ performs
      refine ⟨step.journal.trans carries.journal, carries.larger.trans step.larger, ?_⟩
      rcases step.carried with same | ⟨form, ledger, fills, holds, found, survives⟩
      · rcases carries.carried with before | ⟨form, ledger, fills, holds, found, survives⟩
        · exact .inl (before.trans same carries.larger)
        · exact .inr ⟨form, ledger, fills, holds, step.larger.find_same found same, survives⟩
      · refine .inr ⟨form, ledger, fills, holds, found,
          fun declaration declared spared plain => ?_⟩
        have before := carries.found settled file opened declaration declared spared plain
        exact before.trans (survives declaration declared spared (before.no_binary_count plain))

/-- Any number of commands carries along what the file held for questions that none of them was to
change. -/
theorem Carries.answer_each {targets : List String} {workspace : Workspace}
    (carries : opening.Carries targets workspace)
    (settled : opening.workspace.disk.Settled opening.path)
    (commands : List (String × Operation)) (targeted : commandTargets commands ⊆ targets) :
    opening.Carries targets
      (opening.definition.answerEach opening.path workspace commands).2 := by
  induction commands generalizing workspace with
  | nil => exact carries
  | cons command later induction =>
      have here : command.2 ≠ .look → command.1 ∈ targets := fun changes =>
        targeted (List.mem_map.mpr ⟨command, by simp [changes], rfl⟩)
      have rest : commandTargets later ⊆ targets := by
        intro name member
        obtain ⟨other, isLater, rfl⟩ := List.mem_map.mp member
        have kept := List.mem_filter.mp isLater
        exact targeted (List.mem_map.mpr ⟨other, by simp [kept.1, kept.2], rfl⟩)
      exact induction (carries.answer_once settled command here) rest

end Opening

end CounterForms
