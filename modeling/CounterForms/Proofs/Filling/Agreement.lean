import CounterForms.Proofs.Answers.Accepting
import CounterForms.Proofs.CommandLine.Answer
import CounterForms.Proofs.Session.Run

/-!
Two ways to press the same buttons: by one command for each, where every command reads the answers
anew and writes them back, or in one session that goes to each question on the screen and saves in
the end. Where files can be written both leave answers that bind the definition to the same form.
-/

namespace CounterForms

namespace Form

def pressNamed (form : Form) (step : String × Button) : Form :=
  match form.indexOf? step.1 with
  | some index => form.modify index step.2.press
  | none => form

def pressAll (form : Form) (steps : List (String × Button)) : Form := steps.foldl pressNamed form

theorem Fills.press_named {form : Form} {definition : FormDefinition}
    (fills : form.Fills definition) (step : String × Button) :
    (form.pressNamed step).Fills definition := by
  unfold pressNamed
  split
  · exact fills.modify _ _ step.2.press_keeps
  · exact fills

theorem Fills.press_all {form : Form} {definition : FormDefinition} (fills : form.Fills definition)
    (steps : List (String × Button)) : (form.pressAll steps).Fills definition := by
  induction steps generalizing form with
  | nil => exact fills
  | cons step later induction => exact induction (fills.press_named step)

theorem press_named_found (form : Form) (step : String × Button) (index : Nat)
    (found : form.indexOf? step.1 = some index) :
    form.pressNamed step = form.modify index step.2.press := by
  simp only [pressNamed, found]

end Form

theorem Button.operation_perform (button : Button) : button.operation.perform = button.press := by
  cases button <;> rfl

namespace Workspace.Serves

/-- Writing a form only if the file does not hold it goes well, and afterwards the workspace serves
a file that holds what was entered. -/
theorem keep_form {workspace : Workspace} {path : Path} {file : AnswerFile}
    (serves : workspace.Serves path file) (form : Form) :
    ((AnswerSource.onDisk file).keepForm form workspace).result = .ok () ∧
      ∃ after, after.ledger = (file.setAnswers form.answers).ledger ∧
        ((AnswerSource.onDisk file).keepForm form workspace).workspace.Serves path after := by
  obtain ⟨done, written⟩ := serves.keep form
  unfold AnswerSource.keepForm
  dsimp only
  split
  · exact ⟨done, ⟨path, _, false⟩, rfl, written⟩
  next clean =>
    rw [AnswerSource.set_answers_on_disk] at clean
    have isClean : (file.setAnswers form.answers).dirty = false := Bool.eq_false_iff.mpr clean
    exact ⟨rfl, file, by rw [file.set_answers_clean form.answers isClean], serves⟩

/-- A command that presses a button goes well or is refused because the question is read-only. In
both cases the file that it leaves binds the definition to the form with the button pressed. -/
theorem answer_once {workspace : Workspace} {path : Path} {file : AnswerFile}
    (serves : workspace.Serves path file) (definition : FormDefinition)
    (distinct : definition.names.Nodup) (step : String × Button)
    (declared : step.1 ∈ definition.names) :
    ((∃ text, (definition.answerOnce path workspace (step.1, step.2.operation)).1 = .ok text) ∨
      (definition.answerOnce path workspace (step.1, step.2.operation)).1 =
        failBy (.readOnly ⟨step.1⟩)) ∧
    ∃ after, (definition.answerOnce path workspace (step.1, step.2.operation)).2.Serves path after ∧
      definition.bindTo (.onDisk after) = (definition.bindTo (.onDisk file)).pressNamed step ∧
      after.ledger.AgreesBeside file.ledger definition.names := by
  have fills : (definition.bindTo (.onDisk file)).Fills definition := Form.bind_fills definition _
  have pressed := fills.press_named step
  have performs := (definition.bindTo (.onDisk file)).answer_performs (.onDisk file) workspace
    step.1 step.2.operation
  unfold FormDefinition.answerOnce
  rw [serves.opened]
  dsimp only
  generalize (definition.bindTo (.onDisk file)).answer (.onDisk file) workspace step.1
    step.2.operation = answered at performs ⊢
  cases performs with
  | unknown absent => exact absurd (fills.names ▸ declared) absent
  | looked look shown events =>
      obtain ⟨name, button⟩ := step
      cases button <;> cases look
  | @refused index question found there readOnly =>
      refine ⟨.inr rfl, file, serves, ?_, fun _ _ => rfl⟩
      rw [Form.press_named_found _ step index found, Form.modify_unchanged]
      intro other held
      rw [there] at held
      cases Option.some.inj held
      exact step.2.press_read_only question readOnly
  | @changed index question found there named editable changes shown events =>
      rw [step.2.operation_perform, ← Form.press_named_found _ step index found]
      generalize (definition.bindTo (.onDisk file)).pressNamed step = form at pressed ⊢
      have names : form.names = definition.names := pressed.names
      have noted := serves.notes (workspace.note_all_notes events path serves.apart)
      obtain ⟨done, after, held, served⟩ := noted.keep_form form
      rw [done]
      refine ⟨.inl ⟨shown, rfl⟩, after, served, ?_, ?_⟩
      · apply AnswerLedger.bind_of_holds definition after form pressed
        rw [held]
        exact file.set_answers_holds form (names ▸ distinct)
      · rw [held, ← names]
        exact file.set_answers_beside form (names ▸ distinct)

theorem answer_each {workspace : Workspace} {path : Path} {file : AnswerFile}
    (serves : workspace.Serves path file) (definition : FormDefinition)
    (distinct : definition.names.Nodup) (steps : List (String × Button))
    (declared : ∀ step ∈ steps, step.1 ∈ definition.names) :
    (∀ shown ∈ (definition.answerEach path workspace
      (steps.map fun step => (step.1, step.2.operation))).1,
      (∃ text, shown = .ok text) ∨ ∃ name, shown = failBy (.readOnly ⟨name⟩)) ∧
    ∃ after, (definition.answerEach path workspace
        (steps.map fun step => (step.1, step.2.operation))).2.Serves path after ∧
      definition.bindTo (.onDisk after) = (definition.bindTo (.onDisk file)).pressAll steps ∧
      after.ledger.AgreesBeside file.ledger definition.names := by
  induction steps generalizing workspace file with
  | nil => exact ⟨by simp [FormDefinition.answerEach], file, serves, rfl, fun _ _ => rfl⟩
  | cons step later induction =>
      obtain ⟨shown, next, served, bound, beside⟩ :=
        serves.answer_once definition distinct step (declared step (by simp))
      obtain ⟨others, after, last, binds, agrees⟩ :=
        induction served fun other member => declared other (by simp [member])
      refine ⟨?_, after, last, ?_, fun name absent =>
        (agrees name absent).trans (beside name absent)⟩
      · intro outcome member
        rcases List.mem_cons.mp member with rfl | isLater
        · exact shown.imp id fun refused => ⟨step.1, refused⟩
        · exact others outcome isLater
      · rw [binds, bound]
        rfl

end Workspace.Serves

namespace Session

def moves (here there : Nat) : List Action :=
  List.replicate (there - here) .selectNext ++ List.replicate (here - there) .selectPrevious

/-- Goes to the question of a name on the screen and presses a button of it. -/
def visit (session : Session) (step : String × Button) : Session :=
  match session.form.indexOf? step.1 with
  | some index =>
      (moves session.screen.list.selected index ++ [step.2.action]).foldl act session
  | none => session

def visitAll (session : Session) (steps : List (String × Button)) : Session :=
  steps.foldl visit session

/-- Moving on leads that many questions further, as long as there are so many. -/
theorem move_next (count : Nat) (session : Session) (path : Path)
    (apart : session.workspace.Apart path)
    (inside : session.screen.list.selected + count < session.form.size) :
    ((List.replicate count Action.selectNext).foldl act session).screen.list.selected =
        session.screen.list.selected + count ∧
      ((List.replicate count Action.selectNext).foldl act session).form = session.form ∧
      session.Unsaved ((List.replicate count Action.selectNext).foldl act session) path := by
  induction count generalizing session with
  | zero => exact ⟨rfl, rfl, Unsaved.refl session path⟩
  | succ count induction =>
      have unsaved := session.act_unsaved .selectNext path apart (by simp)
      have form : (session.act .selectNext).form = session.form := session.act_form .selectNext
      have selected : (session.act .selectNext).screen.list.selected =
          session.screen.list.selected + 1 := by
        show (session.screen.list.selectNext session.form.size).selected = _
        have filled : 0 < session.form.size := by omega
        rw [session.screen.list.select_next_selected session.form.size filled]
        omega
      have further := induction (session.act .selectNext) (unsaved.apart apart)
        (by rw [selected, form]; omega)
      rw [List.replicate_succ, List.foldl_cons]
      refine ⟨?_, further.2.1.trans form, unsaved.trans further.2.2⟩
      rw [further.1, selected]
      omega

theorem move_previous (count : Nat) (session : Session) (path : Path)
    (apart : session.workspace.Apart path) :
    ((List.replicate count Action.selectPrevious).foldl act session).screen.list.selected =
        session.screen.list.selected - count ∧
      ((List.replicate count Action.selectPrevious).foldl act session).form = session.form ∧
      session.Unsaved ((List.replicate count Action.selectPrevious).foldl act session) path := by
  induction count generalizing session with
  | zero => exact ⟨rfl, rfl, Unsaved.refl session path⟩
  | succ count induction =>
      have unsaved := session.act_unsaved .selectPrevious path apart (by simp)
      have form : (session.act .selectPrevious).form = session.form :=
        session.act_form .selectPrevious
      have selected : (session.act .selectPrevious).screen.list.selected =
          session.screen.list.selected - 1 := rfl
      have further := induction (session.act .selectPrevious) (unsaved.apart apart)
      rw [List.replicate_succ, List.foldl_cons]
      refine ⟨?_, further.2.1.trans form, unsaved.trans further.2.2⟩
      rw [further.1, selected]
      omega

theorem moves_lead (session : Session) (index : Nat) (path : Path)
    (apart : session.workspace.Apart path) (inside : index < session.form.size) :
    ((moves session.screen.list.selected index).foldl act session).screen.list.selected = index ∧
      ((moves session.screen.list.selected index).foldl act session).form = session.form ∧
      session.Unsaved ((moves session.screen.list.selected index).foldl act session) path := by
  rcases Nat.le_total session.screen.list.selected index with before | behind
  · obtain ⟨selected, form, unsaved⟩ :=
      session.move_next (index - session.screen.list.selected) path apart (by omega)
    have only : moves session.screen.list.selected index =
        List.replicate (index - session.screen.list.selected) .selectNext := by
      simp [moves, Nat.sub_eq_zero_of_le before]
    rw [only]
    exact ⟨selected.trans (by omega), form, unsaved⟩
  · obtain ⟨selected, form, unsaved⟩ :=
      session.move_previous (session.screen.list.selected - index) path apart
    have only : moves session.screen.list.selected index =
        List.replicate (session.screen.list.selected - index) .selectPrevious := by
      simp [moves, Nat.sub_eq_zero_of_le behind]
    rw [only]
    exact ⟨selected.trans (by omega), form, unsaved⟩

/-- Going to a question and pressing its button changes the form at that question and saves
nothing. -/
theorem visit_form (session : Session) (step : String × Button) (path : Path)
    (apart : session.workspace.Apart path) :
    (session.visit step).form = session.form.pressNamed step ∧
      session.Unsaved (session.visit step) path := by
  unfold visit Form.pressNamed
  cases found : session.form.indexOf? step.1 with
  | none => exact ⟨rfl, Unsaved.refl session path⟩
  | some index =>
      obtain ⟨question, there, -⟩ := session.form.index_of_some step.1 index found
      have inside : index < session.form.size := (List.getElem?_eq_some_iff.mp there).1
      obtain ⟨selected, form, moved⟩ := session.moves_lead index path apart inside
      dsimp only
      rw [List.foldl_append, List.foldl_cons, List.foldl_nil]
      generalize (moves session.screen.list.selected index).foldl act session = reached
        at selected form moved ⊢
      have pressed := reached.act_unsaved step.2.action path (moved.apart apart)
        (by cases step.2 <;> simp [Button.action])
      refine ⟨?_, moved.trans pressed⟩
      rw [act_form, Button.of_action_action, selected, form]

theorem visit_all_form (session : Session) (steps : List (String × Button)) (path : Path)
    (apart : session.workspace.Apart path) :
    (session.visitAll steps).form = session.form.pressAll steps ∧
      session.Unsaved (session.visitAll steps) path := by
  induction steps generalizing session with
  | nil => exact ⟨rfl, Unsaved.refl session path⟩
  | cons step later induction =>
      obtain ⟨form, unsaved⟩ := session.visit_form step path apart
      obtain ⟨last, rest⟩ := induction (session.visit step) (unsaved.apart apart)
      refine ⟨?_, unsaved.trans rest⟩
      show ((session.visit step).visitAll later).form = _
      rw [last, form]
      rfl

/-- A session in which buttons are pressed and that is saved then leaves a file that binds the
definition to the form with these buttons pressed. -/
theorem visit_all_save (session : Session) (definition : FormDefinition) (path : Path)
    (file : AnswerFile) (steps : List (String × Button)) (distinct : definition.names.Nodup)
    (serves : session.workspace.Serves path file) (source : session.source = .onDisk file)
    (form : session.form = definition.bindTo (.onDisk file)) :
    (session.visitAll steps).save.1 = .ok () ∧
    ∃ after, (session.visitAll steps).save.2.workspace.Serves path after ∧
      definition.bindTo (.onDisk after) = (definition.bindTo (.onDisk file)).pressAll steps ∧
      after.ledger.AgreesBeside file.ledger definition.names := by
  obtain ⟨pressed, unsaved⟩ := session.visit_all_form steps path serves.apart
  have served := serves.notes unsaved.notes
  have filled : (session.visitAll steps).form.Fills definition := by
    rw [pressed, form]
    exact (Form.bind_fills definition _).press_all steps
  have names : (session.visitAll steps).form.names = definition.names := filled.names
  have result := (session.visitAll steps).save_result
  have notes := (session.visitAll steps).save_notes path
  -- The save is the only flush, and its source is still the file that was opened.
  have sameSource : (session.visitAll steps).source = .onDisk file :=
    unsaved.source.trans source
  unfold kept at result notes
  rw [sameSource] at result notes
  obtain ⟨done, written⟩ := served.keep (session.visitAll steps).form
  refine ⟨result.trans done, _, written.notes (notes written.apart), ?_, ?_⟩
  · have holds := file.set_answers_holds (session.visitAll steps).form (names ▸ distinct)
    rw [← form, ← pressed]
    exact AnswerLedger.bind_of_holds definition _ _ filled holds
  · rw [← names]
    exact file.set_answers_beside _ (names ▸ distinct)

end Session

/-- Buttons that are pressed by one command each and buttons that are pressed in one session with a
save in the end leave the same answers. Every command goes well or is refused because its question
is read-only, the save goes well, both files are opened again, and they bind the definition to the
same form and hold the same under all names that the definition does not declare. -/
theorem commands_and_session_agree (definition : FormDefinition) (path : Path) (config : Config)
    (workspace : Workspace) (file : AnswerFile) (session : Session)
    (steps : List (String × Button)) (checked : definition.check = .ok ())
    (opened : AnswerFile.load workspace.disk path = .ok file)
    (numbers : file.ledger.NumbersReread) (accepts : workspace.disk.Accepts path)
    (apart : workspace.Apart path)
    (started : Session.start config (definition.bindTo (.onDisk file)) (.onDisk file) workspace =
      .ok session)
    (declared : ∀ step ∈ steps, step.1 ∈ definition.names) :
    (∀ shown ∈ (definition.answerEach path workspace
      (steps.map fun step => (step.1, step.2.operation))).1,
      (∃ text, shown = .ok text) ∨ ∃ name, shown = failBy (.readOnly ⟨name⟩)) ∧
    (session.opened.visitAll steps).save.1 = .ok () ∧
    ∃ scripted interactive,
      AnswerFile.load (definition.answerEach path workspace
        (steps.map fun step => (step.1, step.2.operation))).2.disk path = .ok scripted ∧
      AnswerFile.load (session.opened.visitAll steps).save.2.workspace.disk path =
        .ok interactive ∧
      definition.bindTo (.onDisk scripted) = definition.bindTo (.onDisk interactive) ∧
      scripted.ledger.AgreesBeside interactive.ledger definition.names := by
  have distinct := (definition.check_names checked).1
  have serves : workspace.Serves path file := ⟨apart, accepts, opened, numbers⟩
  obtain ⟨outcomes, scripted, scriptedServes, scriptedBinds, scriptedBeside⟩ :=
    serves.answer_each definition distinct steps declared
  obtain ⟨form, -, source, rfl, -⟩ := Session.start_ok _ _ _ _ session started
  have begun := session.workspace.note_notes (.formOpened session.form.title) path apart
  obtain ⟨saved, interactive, interactiveServes, interactiveBinds, interactiveBeside⟩ :=
    session.opened.visit_all_save definition path file steps distinct (serves.notes begun) source
      form
  refine ⟨outcomes, saved, scripted, interactive, scriptedServes.opened,
    interactiveServes.opened, scriptedBinds.trans interactiveBinds.symm, fun name absent => ?_⟩
  rw [scriptedBeside name absent, interactiveBeside name absent]

def smallSteps : List (String × Button) := [("b", .increase), ("a", .decrease)]

theorem commands_and_session_agree_small :
    ∃ session scripted interactive,
      Session.start {} (smallDefinition.bindTo (.onDisk smallFile)) (.onDisk smallFile)
        ⟨smallDisk, none⟩ = .ok session ∧
      AnswerFile.load (smallDefinition.answerEach smallPath ⟨smallDisk, none⟩
        (smallSteps.map fun step => (step.1, step.2.operation))).2.disk smallPath =
          .ok scripted ∧
      AnswerFile.load (session.opened.visitAll smallSteps).save.2.workspace.disk smallPath =
        .ok interactive ∧
      smallDefinition.bindTo (.onDisk scripted) = smallDefinition.bindTo (.onDisk interactive) := by
  obtain ⟨session, started⟩ := Session.small_started
  have declared : ∀ step ∈ smallSteps, step.1 ∈ smallDefinition.names := by decide
  obtain ⟨-, -, scripted, interactive, loaded, saved, same, -⟩ :=
    commands_and_session_agree smallDefinition smallPath {} ⟨smallDisk, none⟩ smallFile session
      smallSteps small_checked small_opened small_numbers small_accepts
      (Workspace.apart_unkept _ _) started declared
  exact ⟨session, scripted, interactive, started, loaded, saved, same⟩

end CounterForms
