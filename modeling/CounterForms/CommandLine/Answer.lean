import CounterForms.Answers.Source

/-!
Looking at or changing the answer of one question by a command. A change is written to the source of
the answers at once; looking writes nothing.
-/

namespace CounterForms

structure Answered where
  shown : Attempted String
  source : AnswerSource
  workspace : Workspace

def Form.perform (form : Form) (index : Nat) (operation : Operation) (question : Question) :
    Attempted (Form × Question) := do
  let after ← orFail .readOnly (question.apply operation)
  .ok (form.modify index fun _ => after, after)

def updateEvents (before after : Question) (operation : Operation) : List LogEvent :=
  if operation.changes before then [.answerUpdated after.name operation.word after.text] else []

/-- Writes all answers of a form to a source, unless the source holds them already. -/
def AnswerSource.keepForm (source : AnswerSource) (form : Form) (workspace : Workspace) : Kept :=
  let filled := source.setAnswers form.answers
  if filled.isDirty then filled.keep workspace else ⟨.ok (), filled, workspace⟩

def Form.answer (form : Form) (source : AnswerSource) (workspace : Workspace) (name : String)
    (operation : Operation) : Answered :=
  match form.indexOf? name with
  | none => ⟨failBy (.unknownQuestion name form.title), source, workspace⟩
  | some index =>
      match form.question? index with
      | none => ⟨failBy (.unknownQuestion name form.title), source, workspace⟩
      | some question =>
          match form.perform index operation question with
          | .error failure => ⟨.error failure, source, workspace⟩
          | .ok (changed, after) =>
              let noted := workspace.noteAll (updateEvents question after operation)
              if operation = .look then ⟨.ok after.text, source, noted⟩
              else
                let kept := source.keepForm changed noted
                ⟨kept.result.map fun _ => after.text, kept.source, kept.workspace⟩

end CounterForms
