import CounterForms.Question

/-!
Forms. A definition is a title and the declared questions in order; it is fit for use if the title
and every label say something, there is a question, and the names are well formed and told apart,
and the first fault found is the one reported. A form in use binds each question to its answer. A
question is found by its name, the first one of that name counting, and changed at its place.
-/

namespace CounterForms

structure FormDefinition where
  title : String
  questions : List Declaration := []
deriving DecidableEq, Inhabited

inductive FormFault
  | blankTitle
  | noQuestions (title : String)
  | declaration (fault : DeclarationFault)
  | repeatedName (name : String) (title : String)
deriving DecidableEq

def FormFault.message : FormFault → String
  | .blankTitle => "Form title must not be empty"
  | .noQuestions title => "Form '" ++ title ++ "' must declare at least one question"
  | .declaration fault => fault.message
  | .repeatedName name title => "Duplicate question name '" ++ name ++ "' in form '" ++ title ++ "'"

/-- Judges the declarations in order; `earlier` holds the names before them. -/
def checkDeclarations (title : String) (earlier : List String) :
    List Declaration → Except FormFault Unit
  | [] => pure ()
  | declaration :: later => do
      declaration.check.mapError FormFault.declaration
      if earlier.contains declaration.name then throw (.repeatedName declaration.name title)
      checkDeclarations title (declaration.name :: earlier) later

def FormDefinition.check (definition : FormDefinition) : Except FormFault Unit :=
  if Text.isBlankText definition.title then throw .blankTitle
  else if definition.questions.isEmpty then throw (.noQuestions definition.title)
  else checkDeclarations definition.title [] definition.questions

structure Form where
  title : String
  questions : List Question
deriving DecidableEq, Inhabited

namespace Form

def bind (definition : FormDefinition) (answerOf : String → Option Int) : Form :=
  ⟨definition.title,
    definition.questions.map fun declaration =>
      .ofDeclaration declaration (answerOf declaration.name)⟩

/-- The place of the first question with this name. -/
def indexOf? (form : Form) (name : String) : Option Nat :=
  form.questions.findIdx? fun question => question.name == name

def question? (form : Form) (index : Nat) : Option Question := form.questions[index]?

def modify (form : Form) (index : Nat) (change : Question → Question) : Form :=
  { form with questions := form.questions.modify index change }

def size (form : Form) : Nat := form.questions.length

def answeredCount (form : Form) : Nat := form.questions.countP Question.isAnswered

def answers (form : Form) : List (String × Option Int) :=
  form.questions.map fun question => (question.name, question.answer)

end Form

end CounterForms
