import CounterForms.Proofs.CommandLine.Reply
import CounterForms.Proofs.Form.Stepping

/-!
Buttons and operations on one question. Whether a button is enabled, whether pressing it is told to
change the answer, and whether the answer is another one afterwards are three computations; on any
question in use they agree. An operation is refused on a read-only question unless it only looks,
and otherwise does and tells what its button does.
-/

namespace CounterForms

def Button.onCounter : Button → CounterStep
  | increase => .increment
  | decrease => .decrement
  | clear => .clear

namespace Edit

/-- What an edit makes of an answer, reckoned in whole numbers. -/
def reckon (readOnly : Bool) : Edit → Option Int → Option Int
  | press button, answer => if readOnly then answer else button.onCounter.reckon answer
  | set given, answer => (CounterStep.set given).reckon answer

def changes : Edit → Question → Bool
  | press .increase => Question.pressChanges Counter.increment
  | press .decrease => Question.pressChanges Counter.decrement
  | press .clear => Question.pressChanges fun _ => .unanswered
  | set given => fun question => question.answer != (question.setAnswer given).answer

end Edit

def Operation.edit? : Operation → Option Edit
  | .look => none
  | .increase => some (.press .increase)
  | .decrease => some (.press .decrease)
  | .clear => some (.press .clear)
  | .set value => some (.set (some value))

/-- What is done to a question in use: it is edited, or an operation is asked of it, which it may
refuse. -/
inductive QuestionStep
  | edit (edit : Edit)
  | apply (operation : Operation)
deriving DecidableEq

def QuestionStep.reckon (readOnly : Bool) : QuestionStep → Option Int → Option Int
  | edit made, answer => made.reckon readOnly answer
  | apply operation, answer =>
      if readOnly then answer
      else
        match operation.edit? with
        | some made => made.reckon false answer
        | none => answer

theorem QuestionStep.reckon_edited (operation : Operation) (edit : Edit)
    (made : operation.edit? = some edit) (answer : Option Int) :
    reckon false (.apply operation) answer = edit.reckon false answer := by
  simp only [reckon, made, Bool.false_eq_true, if_false]

namespace Counter

theorem can_increment_iff (counter : Counter) :
    counter.canIncrement = true ↔ counter.increment.answer ≠ counter.answer := by
  obtain ⟨count, inRange⟩ := counter
  cases count with
  | none => exact iff_of_true rfl nofun
  | some held =>
      have bound : held ≤ maxCount := inRange held rfl
      show decide (held < maxCount) = true ↔
        some ((min (held + 1) maxCount : Nat) : Int) ≠ some (held : Int)
      rw [decide_eq_true_eq, Ne, Option.some.injEq]
      omega

theorem can_decrement_iff (counter : Counter) :
    counter.canDecrement = true ↔ counter.decrement.answer ≠ counter.answer := by
  obtain ⟨count, inRange⟩ := counter
  cases count with
  | none => exact iff_of_false nofun fun changed => changed rfl
  | some held =>
      show decide (0 < held) = true ↔ some ((held - 1 : Nat) : Int) ≠ some (held : Int)
      rw [decide_eq_true_eq, Ne, Option.some.injEq]
      omega

end Counter

namespace Question

def step (question : Question) : QuestionStep → Question
  | .edit edit => edit.perform question
  | .apply operation => question.obey operation

def run (question : Question) (steps : List QuestionStep) : Question := steps.foldl step question

theorem press_changes_iff (button : Counter → Counter) (question : Question) :
    question.pressChanges button = true ↔ (question.press button).answer ≠ question.answer := by
  unfold pressChanges press
  split
  · exact iff_of_false Bool.false_ne_true fun changed => changed rfl
  · rw [bne_iff_ne]
    exact ne_comm

/-- A button that is enabled where it changes the counter is enabled where pressing it is told to
change the answer. -/
theorem enabled_eq_changes (button : Counter → Counter) (can : Counter → Bool)
    (tells : ∀ counter, can counter = true ↔ (button counter).answer ≠ counter.answer)
    (question : Question) :
    (!question.readOnly && can question.counter) = question.pressChanges button := by
  unfold pressChanges
  split
  next held => rw [held, Bool.not_true, Bool.false_and]
  next writable =>
    rw [Bool.eq_false_iff.mpr writable, Bool.not_false, Bool.true_and, Bool.eq_iff_iff, tells,
      bne_iff_ne]
    exact ne_comm

theorem increase_enabled_eq (question : Question) :
    question.increaseEnabled = (Edit.press .increase).changes question :=
  enabled_eq_changes Counter.increment Counter.canIncrement Counter.can_increment_iff question

theorem decrease_enabled_eq (question : Question) :
    question.decreaseEnabled = (Edit.press .decrease).changes question :=
  enabled_eq_changes Counter.decrement Counter.canDecrement Counter.can_decrement_iff question

theorem edit_answer (question : Question) (edit : Edit) :
    (edit.perform question).answer = edit.reckon question.readOnly question.answer := by
  cases edit with
  | set given => exact Counter.of_answer_filter given
  | press button =>
      show _ = if question.readOnly then _ else _
      split
      next held =>
        show (button.press question).answer = _
        rw [button.press_read_only question held]
      next writable =>
        have pressed (does : Counter → Counter) :
            (question.press does).answer = (does question.counter).answer := by
          rw [press, if_neg writable]
          rfl
        cases button with
        | increase => exact (pressed _).trans (question.counter.step_answer .increment)
        | decrease => exact (pressed _).trans (question.counter.step_answer .decrement)
        | clear => exact (pressed _).trans (question.counter.step_answer .clear)

theorem edit_changes_iff (question : Question) (edit : Edit) :
    edit.changes question = true ↔ (edit.perform question).answer ≠ question.answer := by
  cases edit with
  | set given =>
      show (question.answer != (question.setAnswer given).answer) = true ↔ _
      rw [bne_iff_ne]
      exact ne_comm
  | press button =>
      cases button with
      | increase => exact press_changes_iff Counter.increment question
      | decrease => exact press_changes_iff Counter.decrement question
      | clear => exact press_changes_iff (fun _ => .unanswered) question

/-- An operation does what its edit does, and is told to change what that is told to. -/
theorem perform_edit (operation : Operation) (edit : Edit) (made : operation.edit? = some edit)
    (question : Question) :
    operation.perform question = edit.perform question ∧
      operation.changes question = edit.changes question := by
  cases operation <;> cases made <;> exact ⟨rfl, rfl⟩

theorem edit_changing (operation : Operation) (edit : Edit) (made : operation.edit? = some edit) :
    operation ≠ .look := by
  rintro rfl
  cases made

/-- What becomes of an operation: looking leaves the question as it is, a read-only question refuses
anything else, and otherwise the edit is made. -/
inductive Applied (question : Question) : Operation → Except ReadOnlyRefusal Question → Prop
  | looked : Applied question .look (.ok question)
  | refused (operation : Operation) (changing : operation ≠ .look)
      (held : question.readOnly = true) :
      Applied question operation (.error ⟨question.name⟩)
  | edited (operation : Operation) (edit : Edit) (made : operation.edit? = some edit)
      (writable : question.readOnly = false) :
      Applied question operation (.ok (edit.perform question))

theorem apply_applied (question : Question) (operation : Operation) :
    question.Applied operation (question.apply operation) := by
  cases made : operation.edit? with
  | none =>
      have look : operation = .look := by
        cases operation <;> first | rfl | cases made
      rw [look, apply_look]
      exact .looked
  | some edit =>
      have changing := edit_changing operation edit made
      cases held : question.readOnly with
      | true =>
          have untaken : ¬question.Takes operation := fun takes => by simp [takes.1] at held
          rw [question.apply_untaken operation untaken changing]
          exact .refused operation changing held
      | false =>
          rw [question.apply_taken operation ⟨held, changing⟩,
            (perform_edit operation edit made question).1]
          exact .edited operation edit made held

theorem apply_error_iff (question : Question) (operation : Operation) (refusal : ReadOnlyRefusal) :
    question.apply operation = .error refusal ↔
      (question.readOnly = true ∧ operation ≠ .look) ∧ refusal = ⟨question.name⟩ := by
  have applied := question.apply_applied operation
  generalize question.apply operation = outcome at applied ⊢
  cases applied with
  | looked => exact iff_of_false nofun fun refused => refused.1.2 rfl
  | refused _ changing held =>
      rw [Except.error.injEq, eq_comm]
      exact (and_iff_right ⟨held, changing⟩).symm
  | edited _ edit made writable =>
      rw [writable]
      exact iff_of_false nofun fun refused => Bool.false_ne_true refused.1.1

theorem obey_answer (question : Question) (operation : Operation) :
    (question.obey operation).answer =
      QuestionStep.reckon question.readOnly (.apply operation) question.answer := by
  have applied := question.apply_applied operation
  unfold obey
  generalize question.apply operation = outcome at applied ⊢
  cases applied with
  | looked => exact (ite_self question.answer).symm
  | refused _ changing held =>
      rw [held]
      rfl
  | edited _ edit made writable =>
      rw [writable, QuestionStep.reckon_edited operation edit made]
      show (edit.perform question).answer = edit.reckon false question.answer
      rw [edit_answer, writable]

theorem step_keeps (step : QuestionStep) : Keeps fun question => question.step step := by
  cases step with
  | edit edit => exact edit.perform_keeps
  | apply operation => exact obey_keeps operation

theorem step_answer (question : Question) (step : QuestionStep) :
    (question.step step).answer = step.reckon question.readOnly question.answer := by
  cases step with
  | edit edit => exact question.edit_answer edit
  | apply operation => exact question.obey_answer operation

/-- After any run the declaration is the same, and the answer is reckoned step by step. -/
theorem run_reckoned (question : Question) (steps : List QuestionStep) :
    (question.run steps).toDeclaration = question.toDeclaration ∧
      (question.run steps).answer =
        steps.foldl (fun answer step => step.reckon question.readOnly answer) question.answer := by
  induction steps generalizing question with
  | nil => exact ⟨rfl, rfl⟩
  | cons first later induction =>
      have kept : (question.step first).toDeclaration = question.toDeclaration :=
        step_keeps first question
      have sameReadOnly : (question.step first).readOnly = question.readOnly :=
        congrArg Declaration.readOnly kept
      obtain ⟨declared, answered⟩ := induction (question.step first)
      refine ⟨declared.trans kept, ?_⟩
      rw [sameReadOnly, step_answer] at answered
      exact answered

/-- What a question shows and is told about its buttons and operations is what they do to it. -/
structure Tells (question : Question) : Prop where
  increase : (question.increaseEnabled = true ↔ (Edit.press .increase).changes question = true) ∧
    (question.increaseEnabled = true ↔ question.increase.answer ≠ question.answer)
  decrease : (question.decreaseEnabled = true ↔ (Edit.press .decrease).changes question = true) ∧
    (question.decreaseEnabled = true ↔ question.decrease.answer ≠ question.answer)
  pressed (button : Button) :
    (Edit.press button).changes question = (button.press question).changedFrom question
  refused (operation : Operation) (refusal : ReadOnlyRefusal) :
    question.apply operation = .error refusal ↔
      (question.readOnly = true ∧ operation ≠ .look) ∧ refusal = ⟨question.name⟩
  unchanged (operation : Operation) (refusal : ReadOnlyRefusal) :
    question.apply operation = .error refusal → question.obey operation = question
  looked : question.apply .look = .ok question ∧ Operation.look.changes question = false
  applied (operation : Operation) (edit : Edit) :
    operation.edit? = some edit → question.readOnly = false →
      question.apply operation = .ok (edit.perform question) ∧
        operation.changes question = edit.changes question
  told (operation : Operation) (after : Question) :
    question.apply operation = .ok after →
      (operation.changes question = true ↔ after.answer ≠ question.answer)

theorem tells (question : Question) : question.Tells where
  increase := by
    rw [increase_enabled_eq]
    exact ⟨Iff.rfl, question.edit_changes_iff (.press .increase)⟩
  decrease := by
    rw [decrease_enabled_eq]
    exact ⟨Iff.rfl, question.edit_changes_iff (.press .decrease)⟩
  pressed button := by
    rw [Bool.eq_iff_iff, edit_changes_iff, changedFrom, bne_iff_ne]
    rfl
  refused := question.apply_error_iff
  unchanged operation refusal failed := by
    rw [obey, failed]
    rfl
  looked := ⟨question.apply_look, rfl⟩
  applied operation edit made writable := by
    obtain ⟨performed, changes⟩ := perform_edit operation edit made question
    rw [question.apply_taken operation ⟨writable, edit_changing operation edit made⟩, performed]
    exact ⟨rfl, changes⟩
  told operation after done := by
    have applied := question.apply_applied operation
    rw [done] at applied
    cases applied with
    | looked => exact iff_of_false Bool.false_ne_true fun changed => changed rfl
    | edited _ edit made writable =>
        rw [(perform_edit operation edit made question).2]
        exact question.edit_changes_iff edit

/-- Questions in use. After any run of edits and operations, refused ones among them, a question is
declared as it was, and its answer is reckoned from the one that it was bound to first. Its buttons
are enabled just if pressing them changes the answer, and its operations do what the buttons do. -/
theorem run_tells (declaration : Declaration) (initial : Option Int) (steps : List QuestionStep) :
    let question := (ofDeclaration declaration initial).run steps
    question.toDeclaration = declaration ∧
    question.answer =
      steps.foldl (fun answer step => step.reckon declaration.readOnly answer)
        (initial.filter fun value => 0 ≤ value ∧ value ≤ 999999999) ∧
    question.Tells := by
  intro question
  obtain ⟨declared, answered⟩ := (ofDeclaration declaration initial).run_reckoned steps
  refine ⟨declared, ?_, question.tells⟩
  rw [← Counter.of_answer_filter]
  exact answered

/-- A question that is set to the largest count and cannot be increased any more. -/
theorem run_tells_full :
    let question := (ofDeclaration { name := "a", label := "A" } (some (-5))).run
      [.edit (.press .increase), .apply (.set 999999999), .edit (.press .increase)]
    question.answer = some 999999999 ∧ question.increaseEnabled = false ∧
      question.decreaseEnabled = true ∧ question.apply .increase = .ok question.increase ∧
      Operation.increase.changes question = false := by
  intro question
  obtain ⟨declared, reckoned, tells⟩ := run_tells { name := "a", label := "A" } (some (-5))
    [.edit (.press .increase), .apply (.set 999999999), .edit (.press .increase)]
  have held : question.answer = some 999999999 := reckoned.trans rfl
  have full : question.increaseEnabled = false := by
    rw [← Bool.not_eq_true, tells.increase.2]
    exact not_not.mpr (by decide)
  have writable : question.readOnly = false := congrArg Declaration.readOnly declared
  obtain ⟨applied, changes⟩ := tells.applied .increase (.press .increase) rfl writable
  refine ⟨held, full, tells.decrease.2.mpr (by decide), applied, ?_⟩
  rw [changes, ← Bool.not_eq_true, ← tells.increase.1, full]
  exact Bool.false_ne_true

end Question

end CounterForms
