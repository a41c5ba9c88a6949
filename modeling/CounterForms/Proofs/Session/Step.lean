import CounterForms.Proofs.Answers.Saving
import CounterForms.Session

/-!
What one reported key does to a session. A key that calls no action does nothing but perhaps end the
session; a button changes the selected question and nothing else; saving is the only thing that
reaches the answers, and leaves the form as it is.
-/

namespace CounterForms

namespace FormScreen

/-- Pressing a button changes the form at the selected place, whether the status tells so or not. -/
theorem press_form (screen : FormScreen) (button : Question → Question)
    (keeps : Question.Keeps button) :
    (screen.press button).form = screen.form.modify screen.list.selected button := by
  unfold press selectedQuestion?
  cases held : screen.form.question? screen.list.selected with
  | none =>
      symm
      apply screen.form.modify_unchanged
      simp [held]
  | some question =>
      dsimp only
      split
      · rfl
      next same =>
        symm
        apply screen.form.modify_unchanged
        intro other isHeld
        rw [held] at isHeld
        cases Option.some.inj isHeld
        exact Question.unchanged button keeps question (by simpa using same)

theorem act_form (screen : FormScreen) (action : Action) :
    (screen.act action).1.form =
      match Button.ofAction? action with
      | some button => screen.form.modify screen.list.selected button.press
      | none => screen.form := by
  cases action with
  | increase => exact screen.press_form _ Button.increase.press_keeps
  | decrease => exact screen.press_form _ Button.decrease.press_keeps
  | clear => exact screen.press_form _ Button.clear.press_keeps
  | _ => rfl

end FormScreen

namespace Session

/-- The action that a reported key calls, if the session takes it and it calls one. -/
def called? (session : Session) (event : KeyEvent) : Option Action :=
  if event.motion = .press ∧ session.ended = false ∧ event.chord.interrupts = false then
    session.bindings.action? event.chord
  else none

theorem take_called (session : Session) (event : KeyEvent) (action : Action)
    (calls : session.called? event = some action) : session.take event = session.act action := by
  unfold called? at calls
  split at calls
  next taken =>
    obtain ⟨pressed, running, noInterrupt⟩ := taken
    rw [take, if_pos pressed, press, running, noInterrupt]
    simp only [Bool.false_eq_true, if_false, calls]
  next => cases calls

/-- A key that calls no action leaves the session as it is or ends it. -/
theorem take_idle (session : Session) (event : KeyEvent) (idle : session.called? event = none) :
    session.take event = session ∨ session.take event = { session with ended := true } := by
  unfold take
  split
  next pressed =>
    unfold press
    split
    · exact .inl rfl
    next running =>
      split
      · exact .inr rfl
      next noInterrupt =>
        rw [called?, if_pos ⟨pressed, by simpa using running, by simpa using noInterrupt⟩] at idle
        rw [idle]
        exact .inl rfl
  next => exact .inl rfl

/-- What is written when the session saves. -/
def kept (session : Session) : Kept :=
  (session.source.setAnswers session.form.answers).keep session.workspace

theorem save_result (session : Session) : session.save.1 = session.kept.result := by
  unfold save kept
  dsimp only
  split
  next failure failed => exact failed.symm
  next done => exact done.symm

theorem save_source (session : Session) : session.save.2.source = session.kept.source := by
  unfold save kept
  dsimp only
  split <;> rfl

theorem save_form (session : Session) : session.save.2.form = session.form := by
  unfold save
  dsimp only
  split <;> rfl

theorem save_notes (session : Session) (path : Path) (apart : session.kept.workspace.Apart path) :
    session.kept.workspace.Notes session.save.2.workspace path := by
  unfold save kept
  dsimp only
  split
  · exact Workspace.Notes.refl _ path
  · exact Workspace.note_notes _ _ path apart

theorem try_save_form (session : Session) : session.trySave.form = session.form := by
  have form := session.save_form
  unfold trySave
  generalize session.save = outcome at form ⊢
  obtain ⟨result, saved⟩ := outcome
  cases result <;> exact form

theorem try_save_source (session : Session) : session.trySave.source = session.save.2.source := by
  unfold trySave
  generalize session.save = outcome
  obtain ⟨result, saved⟩ := outcome
  cases result <;> rfl

theorem try_save_notes (session : Session) (path : Path)
    (apart : session.save.2.workspace.Apart path) :
    session.save.2.workspace.Notes session.trySave.workspace path := by
  unfold trySave
  generalize session.save = outcome at apart ⊢
  obtain ⟨result, saved⟩ := outcome
  cases result with
  | ok _ => exact Workspace.Notes.refl _ path
  | error failure => exact Workspace.note_notes _ _ path apart

theorem save_status (session : Session) :
    session.save.2.status =
      match session.save.1 with
      | .ok () => .saved
      | .error _ => session.status := by
  unfold save
  dsimp only
  split <;> rfl

theorem try_save_ok (session : Session) (done : session.save.1 = .ok ()) :
    session.trySave = session.save.2 := by
  unfold trySave
  generalize session.save = outcome at done ⊢
  obtain ⟨result, saved⟩ := outcome
  cases done
  rfl

theorem try_save_status (session : Session) :
    session.trySave.status =
      match session.save.1 with
      | .ok () => .saved
      | .error failure => .error failure.headline := by
  have status := session.save_status
  unfold trySave
  generalize session.save = outcome at status ⊢
  obtain ⟨result, saved⟩ := outcome
  cases result with
  | ok _ => exact status
  | error failure => rfl

theorem change_events_same (screen : FormScreen) : changeEvents screen screen = [] := by
  unfold changeEvents FormScreen.selectedQuestion?
  cases screen.form.question? screen.list.selected with
  | none => rfl
  | some question => simp [Question.changedFrom]

theorem act_save (session : Session) : session.act .save = session.trySave := by
  simp only [act, FormScreen.act, change_events_same, Workspace.noteAll, List.foldl_nil]

theorem act_form (session : Session) (action : Action) :
    (session.act action).form =
      match Button.ofAction? action with
      | some button => session.form.modify session.screen.list.selected button.press
      | none => session.form := by
  by_cases saves : action = .save
  · subst saves
    rw [act_save, try_save_form]
    rfl
  · have screened := session.screen.act_form action
    unfold act
    cases action <;> first | exact screened | exact absurd rfl saves

/-- A session with the same source in which nothing was saved since, though things may have been
noted. -/
structure Unsaved (before after : Session) (path : Path) : Prop where
  source : after.source = before.source
  notes : before.workspace.Notes after.workspace path

theorem Unsaved.refl (session : Session) (path : Path) : session.Unsaved session path :=
  ⟨rfl, Workspace.Notes.refl _ path⟩

theorem Unsaved.trans {before between after : Session} {path : Path}
    (first : before.Unsaved between path) (second : between.Unsaved after path) :
    before.Unsaved after path :=
  ⟨second.source.trans first.source, first.notes.trans second.notes⟩

theorem Unsaved.apart {before after : Session} {path : Path}
    (unsaved : before.Unsaved after path) (apart : before.workspace.Apart path) :
    after.workspace.Apart path :=
  apart.extend unsaved.notes.journal unsaved.notes.alike.extends

/-- An action other than saving leaves the answers alone. -/
theorem act_unsaved (session : Session) (action : Action) (path : Path)
    (apart : session.workspace.Apart path) (other : action ≠ .save) :
    session.Unsaved (session.act action) path := by
  have notes := session.workspace.note_all_notes
    (changeEvents session.screen (session.screen.act action).1) path apart
  unfold act
  cases action <;> first | exact ⟨rfl, notes⟩ | exact absurd rfl other

theorem save_saves_on_exit (session : Session) :
    session.save.2.savesOnExit = session.savesOnExit := by
  unfold save
  dsimp only
  split <;> rfl

theorem act_saves_on_exit (session : Session) (action : Action) :
    (session.act action).savesOnExit = session.savesOnExit := by
  by_cases saves : action = .save
  · subst saves
    have kept := session.save_saves_on_exit
    rw [act_save]
    unfold trySave
    generalize session.save = outcome at kept ⊢
    obtain ⟨result, saved⟩ := outcome
    cases result <;> exact kept
  · unfold act
    cases action <;> first | rfl | exact absurd rfl saves

end Session

end CounterForms
