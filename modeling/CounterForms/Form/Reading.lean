import CounterForms.Form.Basic
import CounterForms.Toml.Decoder

/-!
Reading the definition of a form from a TOML document. The title, and the name and label of every
question, have to be given.
-/

namespace CounterForms

namespace FormDefinition

open Toml

structure DraftDeclaration where
  name : Option String := none
  label : Option String := none
  hint : Option String := none
  readOnly : Bool := false

def declarationFields : List (RecordField DraftDeclaration) :=
  [
    .of "name" (decodeString "a string") fun name draft => { draft with name := some name },
    .of "label" (decodeString "a string") fun label draft => { draft with label := some label },
    .of "hint" (decodeString "a string") fun hint draft => { draft with hint := some hint },
    .of "read_only" decodeBoolean fun readOnly draft => { draft with readOnly := readOnly }
  ]

/-- How a field that is not given is reported: by its name, or for an array by the missing place. -/
def missing (record : String) (count : Nat) (place : Nat) (name : String) : Value → Misfit
  | .array _ =>
      .tooShort place ("struct " ++ record ++ " with " ++ Text.natText count ++ " elements")
  | _ => .missingField name

def required {Content : Type} (misfit : Misfit) : Option Content → Decoded Content
  | some content => .ok content
  | none => .error misfit

def decodeDeclaration (value : Value) : Decoded Declaration := do
  let draft ← decodeRecord "QuestionDeclaration" declarationFields {} value
  let name ← required (missing "QuestionDeclaration" 4 0 "name" value) draft.name
  let label ← required (missing "QuestionDeclaration" 4 1 "label" value) draft.label
  .ok ⟨name, label, draft.hint, draft.readOnly⟩

structure DraftDefinition where
  title : Option String := none
  questions : List Declaration := []

def definitionFields : List (RecordField DraftDefinition) :=
  [
    .of "title" (decodeString "a string") fun title draft => { draft with title := some title },
    .of "questions" (decodeList decodeDeclaration) fun questions draft =>
      { draft with questions := questions }
  ]

def decodeDefinition (value : Value) : Decoded FormDefinition := do
  let draft ← decodeRecord "FormDefinition" definitionFields {} value
  let title ← required (missing "FormDefinition" 2 0 "title" value) draft.title
  .ok ⟨title, draft.questions⟩

def ofText (text : String) : Except DocumentFault FormDefinition :=
  decodeDocument decodeDefinition text

end FormDefinition

end CounterForms
