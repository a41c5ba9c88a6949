import CounterForms.Key.Bindings
import CounterForms.Proofs.Form.Binding

/-!
Editing a form. A form is edited by buttons, which a read-only question ignores, and by answers from
outside; an edit reaches one question and spares all others.
-/

namespace CounterForms

inductive Button
  | increase
  | decrease
  | clear
deriving DecidableEq

namespace Button

def press : Button → Question → Question
  | increase => Question.increase
  | decrease => Question.decrease
  | clear => Question.clear

def action : Button → Action
  | increase => .increase
  | decrease => .decrease
  | clear => .clear

def ofAction? : Action → Option Button
  | .increase => some increase
  | .decrease => some decrease
  | .clear => some clear
  | _ => none

theorem of_action_action (button : Button) : ofAction? button.action = some button := by
  cases button <;> rfl

def operation : Button → Operation
  | increase => .increase
  | decrease => .decrease
  | clear => .clear

theorem press_keeps (button : Button) : Question.Keeps button.press := by
  cases button <;> exact Question.press_keeps _

theorem press_read_only (button : Button) (question : Question)
    (readOnly : question.readOnly = true) : button.press question = question := by
  cases button with
  | increase => exact Question.press_read_only Counter.increment question readOnly
  | decrease => exact Question.press_read_only Counter.decrement question readOnly
  | clear => exact Question.press_read_only (fun _ => Counter.unanswered) question readOnly

end Button

inductive Edit
  | press (button : Button)
  | set (answer : Option Int)
deriving DecidableEq

namespace Edit

def perform : Edit → Question → Question
  | press button => button.press
  | set answer => fun question => question.setAnswer answer

theorem perform_keeps (edit : Edit) : Question.Keeps edit.perform := by
  cases edit with
  | press button => exact button.press_keeps
  | set answer => exact Question.set_answer_keeps answer

end Edit

namespace Form

def editAll (form : Form) (edits : List (Nat × Edit)) : Form :=
  edits.foldl (fun edited edit => edited.modify edit.1 edit.2.perform) form

theorem Fills.edit_all {form : Form} {definition : FormDefinition} (fills : form.Fills definition)
    (edits : List (Nat × Edit)) : (form.editAll edits).Fills definition := by
  induction edits generalizing form with
  | nil => exact fills
  | cons edit later induction => exact induction (fills.modify _ _ edit.2.perform_keeps)

/-- Questions that are read-only or whose names are not among the targets are the same in both
forms. -/
def Spares (before after : Form) (targets : List String) : Prop :=
  ∀ index, ∀ question ∈ before.question? index,
    question.readOnly = true ∨ question.name ∉ targets → after.question? index = some question

theorem Spares.refl (form : Form) (targets : List String) : form.Spares form targets :=
  fun _ _ held _ => held

theorem Spares.trans {before between after : Form} {targets : List String}
    (first : before.Spares between targets) (second : between.Spares after targets) :
    before.Spares after targets :=
  fun index question held spared =>
    second index question (first index question held spared) spared

theorem Spares.mono {before after : Form} {targets more : List String}
    (spares : before.Spares after targets) (within : targets ⊆ more) : before.Spares after more :=
  fun index question held spared =>
    spares index question held (spared.imp id fun absent named => absent (within named))

/-- A change at one place spares all questions if it leaves the one that it reaches as it is,
should that have to be spared. -/
theorem modify_spares (form : Form) (index : Nat) (change : Question → Question)
    (targets : List String)
    (kept : ∀ question ∈ form.question? index,
      question.readOnly = true ∨ question.name ∉ targets → change question = question) :
    form.Spares (form.modify index change) targets := by
  intro place question held spared
  rw [question_modify]
  split
  next here =>
    subst here
    rw [held, Option.map_some, kept question held spared]
  next => exact held

/-- Pressing a button spares all questions but the one whose button it is. -/
theorem press_spares (form : Form) (index : Nat) (button : Button) (targets : List String)
    (targeted : ∀ question ∈ form.question? index, question.name ∈ targets) :
    form.Spares (form.modify index button.press) targets := by
  apply modify_spares
  intro question held spared
  rcases spared with readOnly | absent
  · exact button.press_read_only question readOnly
  · exact absurd (targeted question held) absent

end Form

end CounterForms
