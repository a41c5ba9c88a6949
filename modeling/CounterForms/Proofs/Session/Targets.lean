import CounterForms.Proofs.Answers.Surviving
import CounterForms.Proofs.Session.Run

/-!
The questions that a session edits. The target of a reported key is the question that is selected
when the key calls a button. Whatever is reported, the session spares all questions that never were
a target, and what the answers file held for them survives.
-/

namespace CounterForms

namespace Session

def target? (session : Session) (event : KeyEvent) : Option String :=
  match (session.called? event).bind Button.ofAction? with
  | some _ => session.screen.selectedQuestion?.map fun question => question.name
  | none => none

def targets (session : Session) : List KeyEvent → List String
  | [] => []
  | event :: later => (session.target? event).toList ++ (session.take event).targets later

theorem targets_append (session : Session) (before later : List KeyEvent) :
    session.targets (before ++ later) =
      session.targets before ++ (session.takeAll before).targets later := by
  induction before generalizing session with
  | nil => rfl
  | cons event rest induction =>
      rw [List.cons_append, targets, targets, induction, List.append_assoc]
      rfl

theorem take_spares (session : Session) (event : KeyEvent) :
    session.form.Spares (session.take event).form (session.target? event).toList := by
  rw [take_form, target?]
  cases (session.called? event).bind Button.ofAction? with
  | none => exact Form.Spares.refl _ _
  | some button =>
      apply Form.press_spares
      intro question held
      have selected : session.screen.selectedQuestion? = some question := held
      simp [selected]

theorem take_all_spares (session : Session) (events : List KeyEvent) :
    session.form.Spares (session.takeAll events).form (session.targets events) := by
  induction events generalizing session with
  | nil => exact Form.Spares.refl _ _
  | cons event later induction =>
      have first := (session.take_spares event).mono
        (List.subset_append_left _ ((session.take event).targets later))
      have rest := (induction (session.take event)).mono
        (List.subset_append_right (session.target? event).toList _)
      exact first.trans rest

/-- When a session is left, what the file held for the questions that were no target is carried
along. -/
theorem leave_carries (opening : Opening) (config : Config) (session : Session)
    (events : List KeyEvent)
    (started : start config opening.form (.onDisk opening.file) opening.workspace = .ok session) :
    opening.Carries (session.opened.targets events)
      (session.opened.takeAll events).leave.2.workspace := by
  obtain ⟨begun, form, -⟩ := tracked_opened opening
    (fun form => form.Fills opening.definition ∧
      opening.form.Spares form (session.opened.targets events)) config session started
  have fills : session.opened.form.Fills opening.definition :=
    form ▸ Form.bind_fills opening.definition (AnswerSource.answer? (.onDisk opening.file))
  -- A form on the way is saved with the targets so far, which are among those of the whole run.
  have allowed (before : List KeyEvent) (isPrefix : before <+: events) :
      (session.opened.takeAll before).form.Fills opening.definition ∧
        opening.form.Spares (session.opened.takeAll before).form
          (session.opened.targets events) := by
    obtain ⟨later, rfl⟩ := isPrefix
    refine ⟨session.opened.take_all_fills before fills, ?_⟩
    rw [← form, targets_append]
    exact (session.opened.take_all_spares before).mono (List.subset_append_left _ _)
  have tracked := begun.take_all events fills allowed
  obtain ⟨filled, spared⟩ := allowed events List.prefix_rfl
  exact Opening.Tracks.carries (tracked.leave filled ⟨filled, spared⟩)

end Session

end CounterForms
