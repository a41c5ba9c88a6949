import CounterForms.Form.Basic
import CounterForms.Operation

/-!
Forms that are bound to answers. Whatever is done to the questions of a form, their declarations
stay those of its definition, so that the answers alone tell one form of a definition from another:
binding the definition to the answers of a form gives that form.
-/

namespace CounterForms

namespace Counter

theorem of_answer_answer (counter : Counter) : ofAnswer counter.answer = counter := by
  obtain ⟨count, inRange⟩ := counter
  cases count with
  | none => rfl
  | some held =>
      have bound : held ≤ maxCount := inRange held rfl
      have fits : 0 ≤ Int.ofNat held ∧ (Int.ofNat held).toNat ≤ maxCount := by simpa using bound
      show ofAnswer (some (Int.ofNat held)) = _
      rw [ofAnswer, dif_pos fits]
      rfl

/-- An answer from outside is kept if it is in range and dropped if it is not. -/
theorem answer_of_answer (value : Int) :
    (ofAnswer (some value)).answer =
      if 0 ≤ value ∧ value.toNat ≤ maxCount then some value else none := by
  by_cases fits : 0 ≤ value ∧ value.toNat ≤ maxCount
  · rw [ofAnswer, dif_pos fits, if_pos fits]
    show some (Int.ofNat value.toNat) = some value
    rw [Int.ofNat_eq_natCast, Int.toNat_of_nonneg fits.1]
  · rw [ofAnswer, dif_neg fits, if_neg fits]
    rfl

theorem answer_injective (one other : Counter) (same : one.answer = other.answer) :
    one = other := by
  rw [← one.of_answer_answer, same, other.of_answer_answer]

end Counter

namespace Question

theorem eq_of_answer (one other : Question) (declared : one.toDeclaration = other.toDeclaration)
    (answered : one.answer = other.answer) : one = other := by
  obtain ⟨declaration, counter⟩ := one
  obtain ⟨otherDeclaration, otherCounter⟩ := other
  have counters : counter = otherCounter := Counter.answer_injective _ _ answered
  cases declared
  cases counters
  rfl

theorem of_declaration_answer (question : Question) :
    ofDeclaration question.toDeclaration question.answer = question := by
  obtain ⟨declaration, counter⟩ := question
  simp only [ofDeclaration, answer, Counter.of_answer_answer]

def Keeps (change : Question → Question) : Prop :=
  ∀ question, (change question).toDeclaration = question.toDeclaration

theorem press_keeps (button : Counter → Counter) : Keeps (press button) := by
  intro question
  unfold press
  split <;> rfl

theorem set_answer_keeps (answer : Option Int) : Keeps fun question => question.setAnswer answer :=
  fun _ => rfl

theorem operation_keeps (operation : Operation) : Keeps operation.perform := by
  cases operation with
  | look => exact fun _ => rfl
  | increase => exact press_keeps _
  | decrease => exact press_keeps _
  | clear => exact press_keeps _
  | set value => exact set_answer_keeps (some value)

theorem press_read_only (button : Counter → Counter) (question : Question)
    (readOnly : question.readOnly = true) : press button question = question := by
  rw [press, if_pos readOnly]

theorem unchanged (change : Question → Question) (keeps : Keeps change) (question : Question)
    (same : (change question).changedFrom question = false) : change question = question := by
  apply eq_of_answer _ _ (keeps question)
  simpa [changedFrom] using same

end Question

def FormDefinition.names (definition : FormDefinition) : List String :=
  definition.questions.map Declaration.name

namespace Form

def names (form : Form) : List String := form.questions.map fun question => question.name

/-- A form has the title and the declarations of a definition, whatever the answers are. -/
structure Fills (form : Form) (definition : FormDefinition) : Prop where
  title : form.title = definition.title
  declarations : form.questions.map Question.toDeclaration = definition.questions

theorem bind_fills (definition : FormDefinition) (answerOf : String → Option Int) :
    (bind definition answerOf).Fills definition where
  title := rfl
  declarations := by
    simp only [bind, List.map_map]
    exact List.map_id _

theorem Fills.names {form : Form} {definition : FormDefinition} (fills : form.Fills definition) :
    form.names = definition.names := by
  rw [FormDefinition.names, ← fills.declarations, List.map_map]
  rfl

theorem Fills.size {form : Form} {definition : FormDefinition} (fills : form.Fills definition) :
    form.size = definition.questions.length := by
  rw [← fills.declarations, List.length_map]
  rfl

def definition (form : Form) : FormDefinition :=
  ⟨form.title, form.questions.map Question.toDeclaration⟩

theorem fills_definition (form : Form) : form.Fills form.definition := ⟨rfl, rfl⟩

theorem answers_names (form : Form) : form.answers.map Prod.fst = form.names := by
  simp [answers, Form.names]

theorem Fills.filled {form : Form} {definition : FormDefinition} (fills : form.Fills definition)
    (filled : definition.questions ≠ []) : form.questions ≠ [] := by
  intro none
  rw [← fills.declarations, none] at filled
  exact filled rfl

theorem Fills.modify {form : Form} {definition : FormDefinition} (fills : form.Fills definition)
    (index : Nat) (change : Question → Question) (keeps : Question.Keeps change) :
    (form.modify index change).Fills definition where
  title := fills.title
  declarations := by
    rw [← fills.declarations]
    apply List.ext_getElem?
    intro place
    simp only [Form.modify, List.getElem?_map, List.getElem?_modify]
    cases form.questions[place]? with
    | none => rfl
    | some question =>
        by_cases here : index = place
        · simp [here, keeps question]
        · simp [here]

/-- A definition that is bound to the answers of one of its forms is that form. -/
theorem bind_answers (form : Form) (definition : FormDefinition) (fills : form.Fills definition)
    (answerOf : String → Option Int)
    (answers : ∀ question ∈ form.questions, answerOf question.name = question.answer) :
    bind definition answerOf = form := by
  obtain ⟨title, questions⟩ := form
  obtain ⟨titled, declared⟩ := fills
  dsimp only at titled declared answers
  have same : ∀ question ∈ questions,
      Question.ofDeclaration question.toDeclaration (answerOf question.name) = question := by
    intro question member
    rw [answers question member, Question.of_declaration_answer]
  simp only [bind, ← titled, ← declared, List.map_map, mk.injEq, true_and]
  exact (List.map_congr_left same).trans (List.map_id questions)

theorem question_modify (form : Form) (index place : Nat) (change : Question → Question) :
    (form.modify index change).question? place =
      if index = place then (form.question? place).map change else form.question? place := by
  simp only [question?, modify, List.getElem?_modify]
  split <;> simp

theorem answer_of_answers (one other : Form) (same : one.answers = other.answers)
    (place : Nat) :
    (one.question? place).map Question.answer = (other.question? place).map Question.answer := by
  have each := congrArg (fun answers => (answers[place]?).map Prod.snd) same
  simpa only [answers, question?, List.getElem?_map, Option.map_map, Function.comp_def] using each

theorem modify_answers (form : Form) (place : Nat) (change : Question → Question)
    (question : Question) (found : form.question? place = some question)
    (changed : (change question).changedFrom question = true) :
    (form.modify place change).answers ≠ form.answers := by
  intro same
  have equal := answer_of_answers _ _ same place
  rw [question_modify, if_pos rfl, found] at equal
  simp only [Option.map_some, Option.some.injEq] at equal
  simp [Question.changedFrom, equal] at changed

theorem modify_unchanged (form : Form) (index : Nat) (change : Question → Question)
    (same : ∀ question ∈ form.question? index, change question = question) :
    form.modify index change = form := by
  obtain ⟨title, questions⟩ := form
  simp only [modify, mk.injEq, true_and]
  apply List.ext_getElem?
  intro place
  rw [List.getElem?_modify]
  cases held : questions[place]? with
  | none => rfl
  | some question =>
      by_cases here : index = place
      · subst here
        simp [same question held]
      · simp [here]

end Form

end CounterForms
