import CounterForms.Counter
import CounterForms.Text.Basic

/-!
A question of a form: what its author declared, and the counter that holds its answer. A read-only
question shows its answer and refuses the buttons.
-/

namespace CounterForms

structure Declaration where
  name : String
  label : String
  hint : Option String := none
  readOnly : Bool := false
deriving DecidableEq, Inhabited

inductive DeclarationFault
  | blankName
  | nameCharacters (name : String)
  | blankLabel (name : String)
deriving DecidableEq

def DeclarationFault.message : DeclarationFault → String
  | .blankName => "Question name must not be empty"
  | .nameCharacters name =>
      "Question name '" ++ name ++ "' may only contain ASCII letters, digits, '_' and '-'"
  | .blankLabel name => "Question '" ++ name ++ "' must have a non-empty label"

def isNameCharacter (character : Char) : Bool :=
  character.isAlphanum || character == '_' || character == '-'

/-- The name is judged before the label. -/
def Declaration.check (declaration : Declaration) : Except DeclarationFault Unit :=
  if Text.isBlankText declaration.name then throw .blankName
  else if !declaration.name.toList.all isNameCharacter then
    throw (.nameCharacters declaration.name)
  else if Text.isBlankText declaration.label then throw (.blankLabel declaration.name)
  else pure ()

structure Question extends Declaration where
  counter : Counter
deriving DecidableEq, Inhabited

namespace Question

def ofDeclaration (declaration : Declaration) (answer : Option Int) : Question :=
  { declaration with counter := .ofAnswer answer }

def answer (question : Question) : Option Int := question.counter.answer

def isAnswered (question : Question) : Bool := question.answer.isSome

def text (question : Question) : String := question.counter.text

/-- Binds the question to an answer from outside, read-only or not. -/
def setAnswer (question : Question) (answer : Option Int) : Question :=
  { question with counter := .ofAnswer answer }

def increaseEnabled (question : Question) : Bool :=
  !question.readOnly && question.counter.canIncrement

def decreaseEnabled (question : Question) : Bool :=
  !question.readOnly && question.counter.canDecrement

/-- Presses a button, which a read-only question ignores. -/
def press (button : Counter → Counter) (question : Question) : Question :=
  if question.readOnly then question else { question with counter := button question.counter }

def increase : Question → Question := press Counter.increment

def decrease : Question → Question := press Counter.decrement

def clear : Question → Question := press fun _ => .unanswered

/-- Whether a press is told to change the answer, which it never is on a read-only question. -/
def pressChanges (button : Counter → Counter) (question : Question) : Bool :=
  if question.readOnly then false
  else question.counter.answer != (button question.counter).answer

def changedFrom (now before : Question) : Bool := now.answer != before.answer

/-- What stands between the buttons: the count, or a placeholder while there is none. -/
def shownText (question : Question) (placeholder : String) : String :=
  if question.isAnswered then question.text else placeholder

end Question

end CounterForms
