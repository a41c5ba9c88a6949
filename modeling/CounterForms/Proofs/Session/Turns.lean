import CounterForms.Proofs.Session.Step

/-!
The turns of a running session. A turn reports a change of an answer, and leaves the source alone,
or it is an attempt to save, which leaves the form alone. What was changed and not yet saved is told
by the turns of a run, each with the session that it met.
-/

namespace CounterForms

namespace FormScreen

inductive Reports (before after : FormScreen) : Prop
  | same (form : after.form = before.form) (status : after.status = before.status)
  | changed (differs : after.form.answers ≠ before.form.answers) (status : after.status = .modified)

theorem press_reports (screen : FormScreen) (button : Question → Question) :
    screen.Reports (screen.press button) := by
  unfold press selectedQuestion?
  cases held : screen.form.question? screen.list.selected with
  | none => exact .same rfl rfl
  | some question =>
      dsimp only
      split
      next changed => exact .changed (screen.form.modify_answers _ button question held changed) rfl
      next => exact .same rfl rfl

theorem act_reports (screen : FormScreen) (action : Action) :
    screen.Reports (screen.act action).1 := by
  cases action with
  | increase => exact screen.press_reports Question.increase
  | decrease => exact screen.press_reports Question.decrease
  | clear => exact screen.press_reports Question.clear
  | _ => exact .same rfl rfl

end FormScreen

inductive Turn
  | key (event : KeyEvent)
  | draw (canvas : Canvas)

namespace Session

def turn (session : Session) : Turn → Session
  | .key event => session.take event
  | .draw canvas => (session.draw canvas).1

def run (session : Session) (turns : List Turn) : Session := turns.foldl turn session

theorem run_snoc (session : Session) (turns : List Turn) (last : Turn) :
    session.run (turns ++ [last]) = (session.run turns).turn last := by
  simp [run]

structure Moment where
  session : Session
  turn : Turn

namespace Moment

def after (moment : Moment) : Session := moment.session.turn moment.turn

def Changes (moment : Moment) : Prop := moment.after.form.answers ≠ moment.session.form.answers

def Saves (moment : Moment) : Prop :=
  ∃ event, moment.turn = .key event ∧ moment.session.called? event = some .save

end Moment

/-- The turns of a run, each with the session that it meets. -/
def moments (session : Session) : List Turn → List Moment
  | [] => []
  | turn :: later => ⟨session, turn⟩ :: (session.turn turn).moments later

/-- A press changed an answer, and nothing was attempted to be saved since. -/
def ChangedUnsaved (session : Session) (turns : List Turn) : Prop :=
  ∃ before moment later, session.moments turns = before ++ moment :: later ∧ moment.Changes ∧
    ∀ other ∈ later, ¬other.Saves

theorem moments_snoc (session : Session) (turns : List Turn) (last : Turn) :
    session.moments (turns ++ [last]) = session.moments turns ++ [⟨session.run turns, last⟩] := by
  induction turns generalizing session with
  | nil => rfl
  | cons turn later induction =>
      rw [List.cons_append, moments, induction]
      rfl

theorem changed_unsaved_snoc (session : Session) (turns : List Turn) (last : Turn) :
    session.ChangedUnsaved (turns ++ [last]) ↔
      Moment.Changes ⟨session.run turns, last⟩ ∨
        (¬Moment.Saves ⟨session.run turns, last⟩ ∧ session.ChangedUnsaved turns) := by
  unfold ChangedUnsaved
  rw [moments_snoc]
  constructor
  · rintro ⟨before, moment, later, split, changes, unsaved⟩
    rcases List.eq_nil_or_concat later with rfl | ⟨between, final, rfl⟩
    · obtain ⟨-, isLast⟩ := List.append_inj' split rfl
      cases List.singleton_inj.mp isLast
      exact .inl changes
    · rw [List.concat_eq_append, ← List.cons_append, ← List.append_assoc] at split
      obtain ⟨earlier, isLast⟩ := List.append_inj' split rfl
      cases List.singleton_inj.mp isLast
      exact .inr ⟨unsaved _ (by simp), before, moment, between, earlier, changes,
        fun other member => unsaved other (by simp [member])⟩
  · rintro (changes | ⟨noSave, before, moment, later, split, changes, unsaved⟩)
    · exact ⟨session.moments turns, _, [], rfl, changes, by simp⟩
    · refine ⟨before, moment, later ++ [⟨session.run turns, last⟩], by simp [split], changes, ?_⟩
      intro other member
      rcases List.mem_append.mp member with earlier | isLast
      · exact unsaved other earlier
      · cases List.mem_singleton.mp isLast
        exact noSave

/-- Only what the list of questions remembers changes when a session is drawn. -/
theorem draw_list (session : Session) (canvas : Canvas) :
    ∃ list, (session.draw canvas).1 =
      { session with screen := { session.screen with list := list } } := by
  unfold draw
  dsimp only
  split <;> exact ⟨_, rfl⟩

theorem act_reports (session : Session) (action : Action) (other : action ≠ .save) :
    session.screen.Reports (session.act action).screen := by
  have reports := session.screen.act_reports action
  unfold act
  cases action <;> first | exact reports | exact absurd rfl other

theorem turn_saves (moment : Moment) (saves : moment.Saves) :
    moment.after = moment.session.trySave := by
  obtain ⟨event, isKey, calls⟩ := saves
  rw [Moment.after, isKey]
  exact (moment.session.take_called event .save calls).trans moment.session.act_save

theorem turn_reports (moment : Moment) (path : Path)
    (apart : moment.session.workspace.Apart path) (noSave : ¬moment.Saves) :
    moment.session.screen.Reports moment.after.screen ∧
      moment.session.Unsaved moment.after path := by
  obtain ⟨session, turn⟩ := moment
  cases turn with
  | draw canvas =>
      obtain ⟨list, drawn⟩ := session.draw_list canvas
      show session.screen.Reports (session.draw canvas).1.screen ∧
        session.Unsaved (session.draw canvas).1 path
      rw [drawn]
      exact ⟨.same rfl rfl, rfl, Workspace.Notes.refl _ path⟩
  | key event =>
      show session.screen.Reports (session.take event).screen ∧
        session.Unsaved (session.take event) path
      cases calls : session.called? event with
      | none =>
          rcases session.take_idle event calls with same | ended
          · rw [same]
            exact ⟨.same rfl rfl, .refl session path⟩
          · rw [ended]
            exact ⟨.same rfl rfl, rfl, Workspace.Notes.refl _ path⟩
      | some action =>
          rw [session.take_called event action calls]
          have other : action ≠ .save := by
            rintro rfl
            exact noSave ⟨event, rfl, calls⟩
          exact ⟨session.act_reports action other, session.act_unsaved action path apart other⟩

end Session

end CounterForms
