import CounterForms.Proofs.Session.Turns

/-!
The screen in use. Whatever happens to it, a question stays selected; moving goes on by one and
stops at the ends; a button reaches the selected question alone, and the status tells a change of
its answer. Drawing and entering leave the form alone.
-/

namespace CounterForms

inductive ScreenTurn
  | act (action : Action)
  | enter (theme : Theme) (bindings : Bindings)
  | draw (area : Area) (theme : Theme) (canvas : Canvas)
  | tell (status : Status)

namespace ScreenTurn

def button? : ScreenTurn → Option Button
  | act action => Button.ofAction? action
  | _ => none

def selectedAfter (size selected : Nat) : ScreenTurn → Nat
  | act .selectNext => min (selected + 1) (size - 1)
  | act .selectPrevious => selected - 1
  | enter _ _ => 0
  | _ => selected

def statusAfter (status : Status) : ScreenTurn → Status
  | tell told => told
  | _ => status

end ScreenTurn

namespace FormScreen

def turn (screen : FormScreen) : ScreenTurn → FormScreen
  | .act action => (screen.act action).1
  | .enter theme bindings => screen.enter theme bindings
  | .draw area theme canvas => (screen.draw area theme canvas).1
  | .tell status => { screen with status := status }

def run (screen : FormScreen) (turns : List ScreenTurn) : FormScreen := turns.foldl turn screen

/-- What a press of a button makes of a screen: it reaches the selected question alone and leaves
the declaration of that one, and the status tells if the answer changed. -/
structure Pressed (before after : FormScreen) (button : Button) : Prop where
  title : after.form.title = before.form.title
  others : ∀ place, place ≠ before.list.selected →
    after.form.question? place = before.form.question? place
  reached : ∃ question, before.selectedQuestion? = some question ∧
    after.selectedQuestion? = some (button.press question) ∧
    (button.press question).toDeclaration = question.toDeclaration ∧
    after.status =
      if (button.press question).answer = question.answer then before.status else .modified

theorem press_list (screen : FormScreen) (button : Question → Question) :
    (screen.press button).list = screen.list := by
  unfold press
  split
  · rfl
  · split <;> rfl

theorem press_status (screen : FormScreen) (button : Question → Question) (question : Question)
    (held : screen.selectedQuestion? = some question) :
    (screen.press button).status =
      if (button question).answer = question.answer then screen.status else .modified := by
  unfold press
  rw [held]
  dsimp only
  by_cases same : (button question).answer = question.answer
  · have unchanged : (button question).changedFrom question = false := by
      simpa [Question.changedFrom] using same
    rw [unchanged, if_pos same]
    rfl
  · have changed : (button question).changedFrom question = true := by
      simpa [Question.changedFrom] using same
    rw [changed, if_neg same]
    rfl

theorem act_of_button (screen : FormScreen) (action : Action) (button : Button)
    (presses : Button.ofAction? action = some button) :
    (screen.act action).1 = screen.press button.press := by
  cases action <;> cases presses <;> rfl

theorem selected_question (screen : FormScreen)
    (within : screen.list.selected < screen.form.size) :
    ∃ question, screen.selectedQuestion? = some question :=
  ⟨_, List.getElem?_eq_getElem within⟩

theorem press_pressed (screen : FormScreen) (button : Button)
    (within : screen.list.selected < screen.form.size) :
    screen.Pressed (screen.press button.press) button := by
  obtain ⟨question, held⟩ := screen.selected_question within
  have form := screen.press_form button.press button.press_keeps
  refine ⟨?_, ?_, question, held, ?_, button.press_keeps question,
    screen.press_status button.press question held⟩
  · rw [form]
    rfl
  · intro place apart
    rw [form, Form.question_modify, if_neg (Ne.symm apart)]
  · unfold selectedQuestion? at held ⊢
    rw [press_list, form, Form.question_modify, if_pos rfl, held]
    rfl

/-- A turn moves the selection as told, presses a button if it presses one, and else leaves the form
as it is. -/
structure Turned (before : FormScreen) (turn : ScreenTurn) (after : FormScreen) : Prop where
  selected : after.list.selected = turn.selectedAfter before.form.size before.list.selected
  pressed : ∀ button, turn.button? = some button → before.Pressed after button
  unpressed : turn.button? = none →
    after.form = before.form ∧ after.status = turn.statusAfter before.status

theorem act_selected (screen : FormScreen) (action : Action) (filled : 0 < screen.form.size) :
    (screen.act action).1.list.selected =
      (ScreenTurn.act action).selectedAfter screen.form.size screen.list.selected := by
  cases action with
  | selectNext => exact screen.list.select_next_selected screen.form.size filled
  | increase => exact congrArg QuestionList.selected (screen.press_list Question.increase)
  | decrease => exact congrArg QuestionList.selected (screen.press_list Question.decrease)
  | clear => exact congrArg QuestionList.selected (screen.press_list Question.clear)
  | _ => rfl

theorem turn_turned (screen : FormScreen) (turn : ScreenTurn)
    (within : screen.list.selected < screen.form.size) :
    screen.Turned turn (screen.turn turn) := by
  have filled : 0 < screen.form.size := by omega
  cases turn with
  | act action =>
      refine ⟨screen.act_selected action filled, ?_, ?_⟩
      · intro button presses
        show screen.Pressed (screen.act action).1 button
        rw [screen.act_of_button action button presses]
        exact screen.press_pressed button within
      · intro unpressed
        cases action <;> first | exact ⟨rfl, rfl⟩ | cases unpressed
  | enter theme bindings => exact ⟨rfl, nofun, fun _ => ⟨rfl, rfl⟩⟩
  | draw area theme canvas =>
      refine ⟨?_, nofun, fun _ => ⟨rfl, rfl⟩⟩
      exact screen.list.draw_selected _ screen.form.questions _ _ canvas within
  | tell status => exact ⟨rfl, nofun, fun _ => ⟨rfl, rfl⟩⟩

theorem turn_fills {definition : FormDefinition} (screen : FormScreen) (turn : ScreenTurn)
    (fills : screen.form.Fills definition) : (screen.turn turn).form.Fills definition := by
  cases turn with
  | act action =>
      show (screen.act action).1.form.Fills definition
      rw [act_form]
      split
      next button _ => exact fills.modify _ _ button.press_keeps
      next => exact fills
  | _ => exact fills

theorem Turned.within {before after : FormScreen} {turn : ScreenTurn}
    (turned : before.Turned turn after) (within : before.list.selected < before.form.size) :
    after.list.selected < before.form.size := by
  rw [turned.selected]
  unfold ScreenTurn.selectedAfter
  split <;> omega

structure Steady (screen : FormScreen) (definition : FormDefinition) : Prop where
  within : screen.list.selected < screen.form.size
  fills : screen.form.Fills definition

theorem Steady.turn {screen : FormScreen} {definition : FormDefinition}
    (steady : screen.Steady definition) (turn : ScreenTurn) :
    (screen.turn turn).Steady definition := by
  have fills := screen.turn_fills turn steady.fills
  have bound := (screen.turn_turned turn steady.within).within steady.within
  refine ⟨?_, fills⟩
  rw [fills.size, ← steady.fills.size]
  exact bound

theorem Steady.run {screen : FormScreen} {definition : FormDefinition}
    (steady : screen.Steady definition) (turns : List ScreenTurn) :
    (screen.run turns).Steady definition := by
  induction turns generalizing screen with
  | nil => exact steady
  | cons turn later induction => exact induction (steady.turn turn)

/-- A screen for a form that has questions, after any turns. A question is selected, and the title
and all declarations are those of the form. Whatever the next turn is, the selection moves as told:
on by one up to the last question, back by one down to the first, to the first when the screen is
entered, and not at all else. A button changes at most the answer of the selected question, and
makes the status that of a modified form exactly if it does; all other turns leave the form alone,
and the status too unless they tell a new one. -/
theorem runs_stay_steady (form : Form) (filled : form.questions ≠ []) (turns : List ScreenTurn) :
    let screen := (ofForm form).run turns
    screen.list.selected < form.size ∧
    (∃ question, screen.selectedQuestion? = some question) ∧
    screen.form.title = form.title ∧
    screen.form.questions.map Question.toDeclaration =
      form.questions.map Question.toDeclaration ∧
    ∀ turn,
      (screen.turn turn).list.selected = turn.selectedAfter form.size screen.list.selected ∧
      (∀ button, turn.button? = some button → screen.Pressed (screen.turn turn) button) ∧
      (turn.button? = none → (screen.turn turn).form = screen.form ∧
        (screen.turn turn).status = turn.statusAfter screen.status) := by
  intro screen
  have begun : (ofForm form).Steady form.definition :=
    ⟨List.length_pos_iff.mpr filled, form.fills_definition⟩
  have steady : screen.Steady form.definition := begun.run turns
  have size : screen.form.size = form.size := by
    rw [steady.fills.size, form.fills_definition.size]
  have within := steady.within
  rw [size] at within
  refine ⟨within, screen.selected_question steady.within, steady.fills.title,
    steady.fills.declarations, fun turn => ?_⟩
  have turned := screen.turn_turned turn steady.within
  rw [← size]
  exact ⟨turned.selected, turned.pressed, turned.unpressed⟩

def pairForm : Form :=
  ⟨"Tally", [.ofDeclaration { name := "a", label := "A" } (some 999999999),
    .ofDeclaration { name := "b", label := "B", readOnly := true } (some 4)]⟩

def pairTurns : List ScreenTurn := [.act .selectNext, .act .selectNext, .tell .saved]

theorem runs_stay_steady_pair :
    let screen := (ofForm pairForm).run pairTurns
    screen.list.selected = 1 ∧
      (screen.turn (.draw ⟨0, 0, 9, 5⟩ ⟨{}, default⟩ (.blank 9 5))).list.selected = 1 ∧
      (screen.turn (.act .selectPrevious)).list.selected = 0 ∧
      (screen.turn (.act .clear)).status = .saved ∧
      (screen.turn (.act .clear)).form.question? 0 = pairForm.question? 0 := by
  obtain ⟨-, -, -, -, next⟩ := runs_stay_steady pairForm (by decide) pairTurns
  obtain ⟨drawn, -, -⟩ := next (.draw ⟨0, 0, 9, 5⟩ ⟨{}, default⟩ (.blank 9 5))
  obtain ⟨moved, -, -⟩ := next (.act .selectPrevious)
  obtain ⟨-, pressed, -⟩ := next (.act .clear)
  obtain ⟨question, held, -, -, status⟩ := (pressed .clear rfl).reached
  have readOnly : (Button.clear.press question).answer = question.answer := by
    cases held
    rfl
  rw [if_pos readOnly] at status
  exact ⟨rfl, drawn, moved, status, (pressed .clear rfl).others 0 (by decide)⟩

end FormScreen

end CounterForms
