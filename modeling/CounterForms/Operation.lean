import CounterForms.Question

/-!
The operations that a script asks for by name. Each does what the matching button of the screen
does; only looking is allowed on a read-only question.
-/

namespace CounterForms

inductive Operation
  | look
  | increase
  | decrease
  | clear
  | set (value : Int)
deriving DecidableEq

structure ReadOnlyRefusal where
  name : String
deriving DecidableEq

def ReadOnlyRefusal.message (refusal : ReadOnlyRefusal) : String :=
  "Question '" ++ refusal.name ++ "' is read-only"

def Operation.word : Operation → String
  | .look => "Show"
  | .increase => "Increase"
  | .decrease => "Decrease"
  | .clear => "Clear"
  | .set value => "Set(" ++ Text.intText value ++ ")"

/-- What the operation makes of a question that may be changed. -/
def Operation.perform : Operation → Question → Question
  | .look => id
  | .increase => Question.increase
  | .decrease => Question.decrease
  | .clear => Question.clear
  | .set value => fun question => question.setAnswer (some value)

/-- Whether the operation is told to change the answer of a question that may be changed. -/
def Operation.changes : Operation → Question → Bool
  | .look => fun _ => false
  | .increase => Question.pressChanges Counter.increment
  | .decrease => Question.pressChanges Counter.decrement
  | .clear => Question.pressChanges fun _ => .unanswered
  | .set value => fun question => question.answer != (question.setAnswer (some value)).answer

/-- The question after the operation, or the refusal of a read-only question. -/
def Question.apply (question : Question) (operation : Operation) :
    Except ReadOnlyRefusal Question :=
  if question.readOnly && operation != .look then throw ⟨question.name⟩
  else pure (operation.perform question)

end CounterForms
