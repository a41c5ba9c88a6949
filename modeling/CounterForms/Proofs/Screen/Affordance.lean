import CounterForms.Proofs.CommandLine.Buttons
import CounterForms.Proofs.Screen.Drawing
import CounterForms.Proofs.Screen.Selection

/-!
The buttons on the screen. Their rectangles lie beside each other in a row of their own, which
label, hint and value leave alone; so whatever is drawn around them, each of their cells tells
whether pressing the button would change the answer of the selected question.
-/

namespace CounterForms

open Canvas

/-- A cell of a button: bold and in the colour of enabled buttons if the button is enabled, and
otherwise not bold and in the colour of disabled ones. -/
structure Cell.ShowsButton (cell : Cell) (palette : Palette) (enabled : Prop) : Prop where
  bright : enabled → cell.foreground = palette.buttonEnabled ∧ cell.bold = true
  dim : ¬enabled → cell.foreground = palette.buttonDisabled ∧ cell.bold = false

theorem Cell.ShowsButton.of_look {was now : Cell} {palette : Palette} {enabled : Prop}
    (shows : was.ShowsButton palette enabled) (same : now.look = was.look) :
    now.ShowsButton palette enabled := by
  have foreground : now.foreground = was.foreground :=
    Option.some.inj (congrArg Style.foreground same)
  have bold : now.bold = was.bold := congrArg Style.bold same
  refine ⟨fun isEnabled => ?_, fun disabled => ?_⟩
  · rw [foreground, bold]
    exact shows.bright isEnabled
  · rw [foreground, bold]
    exact shows.dim disabled

theorem styled_plain_look (cell : Cell) : (cell.styled {}).look = cell.look := by
  simp [Cell.look, Cell.styled]

namespace CounterPanel

/-- Two buttons in a rectangle: apart from each other, inside of it, eleven cells wide and three
cells high where there is room for them, and never larger. -/
structure Fits (parts : Parts) (inside : Area) : Prop where
  apart : ∀ x y, parts.decrease.holds x y = true → parts.increase.holds x y = false
  within : ∀ x y, parts.decrease.holds x y = true ∨ parts.increase.holds x y = true →
    inside.holds x y = true
  bounded : (parts.decrease.width ≤ 11 ∧ parts.decrease.height ≤ 3) ∧
    parts.increase.width ≤ 11 ∧ parts.increase.height ≤ 3
  whole : 22 ≤ inside.width → 5 ≤ inside.height →
    (parts.decrease.width = 11 ∧ parts.decrease.height = 3) ∧
      parts.increase.width = 11 ∧ parts.increase.height = 3

/-- The row of the buttons lies below label and hint. -/
theorem counter_bounds (height : Nat) :
    (counterBounds height).1 ≤ (counterBounds height).2.1 ∧
      (counterBounds height).2.1 ≤ (counterBounds height).2.2 ∧
      (counterBounds height).2.2 ≤ height ∧
      (counterBounds height).2.2 - (counterBounds height).2.1 ≤ 3 ∧
      (5 ≤ height → (counterBounds height).2.2 - (counterBounds height).2.1 = 3) := by
  unfold counterBounds roundHalfUp
  split <;> dsimp only <;> omega

theorem button_bounds (width : Nat) :
    (buttonBounds width).1 ≤ (buttonBounds width).2 ∧ (buttonBounds width).2 ≤ width ∧
      (buttonBounds width).1 ≤ 11 ∧ width - (buttonBounds width).2 ≤ 11 ∧
      (22 ≤ width → (buttonBounds width).1 = 11 ∧ width - (buttonBounds width).2 = 11) := by
  unfold buttonBounds
  split <;> dsimp only <;> omega

theorem parts_of_eq (inside : Area) :
    partsOf inside =
      let rows := counterBounds inside.height
      let columns := buttonBounds inside.width
      { label := inside.rows 0 rows.1
        hint := inside.rows rows.1 rows.2.1
        decrease := (inside.rows rows.2.1 rows.2.2).columns 0 columns.1
        value := (inside.rows rows.2.1 rows.2.2).columns columns.1 columns.2
        increase := (inside.rows rows.2.1 rows.2.2).columns columns.2 inside.width } := rfl

theorem parts_fit (inside : Area) : Fits (partsOf inside) inside := by
  obtain ⟨labelled, hinted, ended, tall, whole⟩ := counter_bounds inside.height
  obtain ⟨decreased, valued, left, right, wide⟩ := button_bounds inside.width
  rw [parts_of_eq]
  constructor <;>
    simp only [Area.holds_iff, Area.rows, Area.columns, ← Bool.not_eq_true] <;>
    omega

/-- Label and hint stand above the buttons, and the value between them. -/
theorem parts_beside (inside : Area) (x y : Nat)
    (here : (partsOf inside).decrease.holds x y = true ∨
      (partsOf inside).increase.holds x y = true) :
    ¬(partsOf inside).label.holds x y = true ∧ ¬(partsOf inside).hint.holds x y = true ∧
      ¬(partsOf inside).value.holds x y = true := by
  obtain ⟨labelled, hinted, ended, -, -⟩ := counter_bounds inside.height
  obtain ⟨decreased, valued, -, -, -⟩ := button_bounds inside.width
  rw [parts_of_eq] at here ⊢
  simp only [Area.holds_iff, Area.rows, Area.columns] at here ⊢
  omega

variable (palette : Palette) (caption : String) (enabled : Bool)

/-- A cell in the style of a button shows it, unless the cell was bold before. -/
theorem button_style_shows (cell : Cell) (light : enabled = false → cell.bold = false) :
    (cell.styled (button palette caption enabled).style).ShowsButton palette (enabled = true) := by
  cases enabled with
  | true => exact ⟨fun _ => ⟨rfl, Bool.or_true _⟩, fun disabled => absurd rfl disabled⟩
  | false =>
      refine ⟨nofun, fun _ => ⟨rfl, ?_⟩⟩
      exact (Bool.or_false _).trans (light rfl)

theorem button_side_shows (cell : Cell) (shows : cell.ShowsButton palette (enabled = true)) :
    (cell.styled (button palette caption enabled).border.sideStyle).ShowsButton palette
      (enabled = true) := by
  have bold : (cell.styled (button palette caption enabled).border.sideStyle).bold = cell.bold :=
    Bool.or_false _
  refine ⟨fun isEnabled => ⟨?_, bold.trans (shows.bright isEnabled).2⟩,
    fun disabled => ⟨?_, bold.trans (shows.dim disabled).2⟩⟩
  · exact if_pos isEnabled
  · exact if_neg disabled

/-- Drawing a button makes each cell of its rectangle show it, if the cell was not bold before. -/
theorem button_draw_shows (area : Area) (canvas : Canvas) (x y : Nat) (was : Cell)
    (shown : canvas.get? x y = some was) (light : was.bold = false)
    (here : area.holds x y = true) :
    ∃ now, ((button palette caption enabled).draw area canvas).get? x y = some now ∧
      now.ShowsButton palette (enabled = true) := by
  let allowed : CellChange := fun _ _ was now =>
    was.ShowsButton palette (enabled = true) → now.ShowsButton palette (enabled = true)
  have composes : allowed.Composes := ⟨fun _ _ _ => id, fun first second => second ∘ first⟩
  have styled : (canvas.restyle (area.meet canvas.area)
      (button palette caption enabled).style).get? x y =
        some (was.styled (button palette caption enabled).style) := by
    have visible : (area.meet canvas.area).holds x y = true :=
      (area.meet_holds_iff _ x y).mpr ⟨here, canvas.get_within x y was shown⟩
    rw [restyle, get_paint, if_pos visible, shown]
    rfl
  have begun := button_style_shows palette caption enabled was fun _ => light
  have drawn := Paragraph.draw_styled_becomes composes (fun _ _ _ _ shows => shows.of_look rfl)
    (button palette caption enabled) area canvas rfl
    (fun _ _ cell _ shows => button_style_shows palette caption enabled cell fun disabled =>
      (shows.dim (Bool.eq_false_iff.mp disabled)).2)
    (fun _ _ cell _ shows => shows.of_look (styled_plain_look cell))
    fun _ _ cell symbol _ shows =>
      button_side_shows palette caption enabled (cell.showing symbol) (shows.of_look rfl)
  obtain ⟨now, isNow, kept⟩ := drawn x y _ styled
  exact ⟨now, isNow, kept begun⟩

/-- A paragraph elsewhere leaves a cell as it looks. -/
theorem paragraph_draw_spares (paragraph : Paragraph) (area : Area) (canvas : Canvas) (x y : Nat)
    (untitled : paragraph.border.title = none) (was : Cell) (shown : canvas.get? x y = some was)
    (beside : ¬area.holds x y = true) :
    ∃ now, (paragraph.draw area canvas).get? x y = some now ∧ now.look = was.look := by
  obtain ⟨now, isNow, kept⟩ := paragraph.draw_keeps_look area canvas untitled x y was shown
  exact ⟨now, isNow, kept beside⟩

def drawWords (parts : Parts) (question : Question) (settings : CounterSettings)
    (palette : Palette) (canvas : Canvas) : Canvas :=
  let labelled := (labelText settings palette question).draw parts.label canvas
  match settings.showHint, question.hint with
  | true, some hint => (hintText palette hint).draw parts.hint labelled
  | _, _ => labelled

theorem draw_words_light (parts : Parts) (question : Question) (settings : CounterSettings)
    (palette : Palette) (canvas : Canvas) (x y : Nat) (was : Cell)
    (shown : canvas.get? x y = some was) (light : was.bold = false)
    (unlabelled : ¬parts.label.holds x y = true) (unhinted : ¬parts.hint.holds x y = true) :
    ∃ now, (drawWords parts question settings palette canvas).get? x y = some now ∧
      now.bold = false := by
  obtain ⟨labelled, isLabelled, sameLabelled⟩ := paragraph_draw_spares
    (labelText settings palette question) parts.label canvas x y rfl was shown unlabelled
  have lightLabelled : labelled.bold = false := (congrArg Style.bold sameLabelled).trans light
  unfold drawWords
  dsimp only
  split
  · obtain ⟨now, isNow, same⟩ := paragraph_draw_spares (hintText palette _) parts.hint _ x y rfl
      labelled isLabelled unhinted
    exact ⟨now, isNow, (congrArg Style.bold same).trans lightLabelled⟩
  · exact ⟨labelled, isLabelled, lightLabelled⟩

/-- Whatever is drawn into the frame, each cell of a button shows it if it was not bold before. -/
theorem draw_parts_shows (captions : Captions) (inside : Area) (question : Question)
    (settings : CounterSettings) (palette : Palette) (canvas : Canvas) (x y : Nat) (was : Cell)
    (shown : canvas.get? x y = some was) (light : was.bold = false) :
    ((partsOf inside).decrease.holds x y = true →
      ∃ now, (drawParts captions (partsOf inside) question settings palette canvas).get? x y =
        some now ∧ now.ShowsButton palette (question.decreaseEnabled = true)) ∧
    ((partsOf inside).increase.holds x y = true →
      ∃ now, (drawParts captions (partsOf inside) question settings palette canvas).get? x y =
        some now ∧ now.ShowsButton palette (question.increaseEnabled = true)) := by
  have apart := (parts_fit inside).apart x y
  have beside := parts_beside inside x y
  generalize partsOf inside = parts at apart beside ⊢
  have worded := draw_words_light parts question settings palette canvas x y was shown light
  have valued := paragraph_draw_spares (valueText settings palette question) parts.value
    ((button palette captions.increase question.increaseEnabled).draw parts.increase
      ((button palette captions.decrease question.decreaseEnabled).draw parts.decrease
        (drawWords parts question settings palette canvas))) x y rfl
  refine ⟨fun here => ?_, fun here => ?_⟩
  · obtain ⟨unlabelled, unhinted, unvalued⟩ := beside (.inl here)
    obtain ⟨cell, isCell, lightCell⟩ := worded unlabelled unhinted
    obtain ⟨pressed, isPressed, shows⟩ := button_draw_shows palette captions.decrease
      question.decreaseEnabled parts.decrease _ x y cell isCell lightCell here
    obtain ⟨other, isOther, sameOther⟩ := paragraph_draw_spares
      (button palette captions.increase question.increaseEnabled) parts.increase _ x y rfl pressed
      isPressed (Bool.eq_false_iff.mp (apart here))
    obtain ⟨now, isNow, sameNow⟩ := valued other isOther unvalued
    exact ⟨now, isNow, shows.of_look (sameNow.trans sameOther)⟩
  · obtain ⟨unlabelled, unhinted, unvalued⟩ := beside (.inr here)
    obtain ⟨cell, isCell, lightCell⟩ := worded unlabelled unhinted
    have elsewhere : ¬parts.decrease.holds x y = true := fun decrease =>
      absurd here (Bool.eq_false_iff.mp (apart decrease))
    obtain ⟨other, isOther, sameOther⟩ := paragraph_draw_spares
      (button palette captions.decrease question.decreaseEnabled) parts.decrease _ x y rfl
      cell isCell elsewhere
    have lightOther : other.bold = false := (congrArg Style.bold sameOther).trans lightCell
    obtain ⟨pressed, isPressed, shows⟩ := button_draw_shows palette captions.increase
      question.increaseEnabled parts.increase _ x y other isOther lightOther here
    obtain ⟨now, isNow, sameNow⟩ := valued pressed isPressed unvalued
    exact ⟨now, isNow, shows.of_look sameNow⟩

end CounterPanel

/-- Drawing the list of questions makes cells bold in its columns only. -/
theorem QuestionList.draw_beside (list : QuestionList) (area : Area) (questions : List Question)
    (settings : ListSettings) (palette : Palette) (canvas : Canvas) :
    canvas.Becomes (NoBolder (Choices.Beside area))
      (list.draw area questions settings palette canvas).2 := by
  have composes := no_bolder_composes (Choices.Beside area)
  have column (x y : Nat) (beside : Choices.Beside area x y) :
      ¬(countArea ((border settings palette).inside area)).holds x y = true ∧
        Choices.Beside (listArea ((border settings palette).inside area)) x y := by
    unfold Choices.Beside at beside ⊢
    simp only [Area.holds_iff, countArea, listArea, Area.rows, Border.inside, Area.right]
    omega
  have framed := NeverBolder.within
    ((border settings palette).draw_never_bolder area canvas rfl rfl) (Choices.Beside area)
  unfold draw
  dsimp only
  refine .trans composes framed (.trans composes ?_ (Becomes.mono
    ((choices settings palette questions).draw_beside _ list.choice _)
    fun x y _ _ change beside => change (column x y beside).2))
  exact Becomes.mono (KeepsLook.no_bolder (Paragraph.draw_keeps_look _ _ _ rfl))
    fun x y _ _ change beside => change (column x y beside).1

namespace FormScreen

/-- Whether an action changes the answer of the selected question. -/
def Changes (screen : FormScreen) (action : Action) : Prop :=
  ((screen.act action).1.form.question? screen.list.selected).map Question.answer ≠
    (screen.form.question? screen.list.selected).map Question.answer

theorem changes_iff (screen : FormScreen) (question : Question)
    (held : screen.selectedQuestion? = some question) (action : Action) (button : Button)
    (presses : Button.ofAction? action = some button) :
    screen.Changes action ↔ (button.press question).answer ≠ question.answer := by
  have isHeld : screen.form.question? screen.list.selected = some question := held
  unfold Changes
  rw [act_form, presses]
  dsimp only
  rw [Form.question_modify, if_pos rfl, isHeld]
  exact not_congr ⟨Option.some.inj, congrArg some⟩

def panelInside (area : Area) (theme : Theme) (question : Question) : Area :=
  (CounterPanel.border theme.settings.counter theme.palette (some question)).inside
    (halves area theme.settings.scaffold).2

/-- The panel lies to the right of the list. -/
theorem panel_beside (area : Area) (theme : Theme) (question : Question) (x y : Nat)
    (inside : (panelInside area theme question).holds x y = true) :
    Choices.Beside (halves area theme.settings.scaffold).1 x y := by
  have panel := Border.inside_holds _ _ x y inside
  unfold Choices.Beside
  simp only [halves, Area.holds_iff, Area.columns] at panel ⊢
  omega

theorem draw_selected_question (screen : FormScreen) (question : Question)
    (selected : screen.selectedQuestion? = some question) (area : Area) (theme : Theme)
    (canvas : Canvas) : (screen.draw area theme canvas).1.selectedQuestion? = some question := by
  have within : screen.list.selected < screen.form.questions.length :=
    (List.getElem?_eq_some_iff.mp selected).1
  have same : (screen.draw area theme canvas).1.list.selected = screen.list.selected :=
    screen.list.draw_selected _ screen.form.questions _ _ canvas within
  show screen.form.question? (screen.draw area theme canvas).1.list.selected = some question
  rw [same]
  exact selected

/-- A screen with a question selected shows that question in its panel. -/
theorem draw_canvas (screen : FormScreen) (question : Question)
    (selected : screen.selectedQuestion? = some question) (area : Area) (theme : Theme)
    (canvas : Canvas) :
    (screen.draw area theme canvas).2 =
      CounterPanel.draw screen.captions (halves area theme.settings.scaffold).2 (some question)
        theme.settings.counter theme.palette
        (screen.list.draw (halves area theme.settings.scaffold).1 screen.form.questions
          theme.settings.list theme.palette canvas).2 := by
  rw [← screen.draw_selected_question question selected area theme canvas]
  rfl

/-- On a blank canvas, list and frame leave the cells within the frame of the panel as light as they
were. -/
theorem framed_light (list : QuestionList) (questions : List Question) (question : Question)
    (area : Area) (theme : Theme) (width height x y : Nat) (column : x < width) (row : y < height)
    (inside : (panelInside area theme question).holds x y = true) :
    ∃ cell, ((CounterPanel.border theme.settings.counter theme.palette (some question)).draw
      (halves area theme.settings.scaffold).2
      (list.draw (halves area theme.settings.scaffold).1 questions theme.settings.list
        theme.palette (.blank width height)).2).get? x y = some cell ∧ cell.bold = false := by
  obtain ⟨listed, isListed, lightListed⟩ := list.draw_beside
    (halves area theme.settings.scaffold).1 questions theme.settings.list theme.palette
    (.blank width height) x y {} (get_blank width height x y column row)
  obtain ⟨framed, isFramed, lightFramed⟩ :=
    (CounterPanel.border theme.settings.counter theme.palette (some question)).draw_never_bolder
      (halves area theme.settings.scaffold).2 _ rfl rfl x y listed isListed
  refine ⟨framed, isFramed, ?_⟩
  rw [← Bool.not_eq_true]
  intro bold
  have wasBold := lightListed (panel_beside area theme question x y inside)
    (lightFramed trivial bold)
  exact absurd wasBold Bool.false_ne_true

theorem draw_shows_enabled (screen : FormScreen) (question : Question)
    (selected : screen.selectedQuestion? = some question) (area : Area) (theme : Theme)
    (width height x y : Nat) (column : x < width) (row : y < height)
    (inside : (panelInside area theme question).holds x y = true) :
    let parts := CounterPanel.partsOf (panelInside area theme question)
    let drawn := (screen.draw area theme (.blank width height)).2
    (parts.decrease.holds x y = true → ∃ cell, drawn.get? x y = some cell ∧
      cell.ShowsButton theme.palette (question.decreaseEnabled = true)) ∧
    (parts.increase.holds x y = true → ∃ cell, drawn.get? x y = some cell ∧
      cell.ShowsButton theme.palette (question.increaseEnabled = true)) := by
  dsimp only
  rw [screen.draw_canvas question selected area theme (.blank width height)]
  obtain ⟨cell, isCell, light⟩ := framed_light screen.list screen.form.questions question area
    theme width height x y column row inside
  exact CounterPanel.draw_parts_shows screen.captions (panelInside area theme question) question
    theme.settings.counter theme.palette _ x y cell isCell light

/-- The buttons on a screen whose list has a question selected, drawn anew. Whatever the form, the
rectangle of the screen, its theme and the size of the canvas are: the buttons lie apart from each
other within the frame of the panel, and each of their cells on the canvas is bold and in the colour
of enabled buttons if pressing the button would change the answer of the selected question, and
otherwise not bold and in the colour of disabled buttons. -/
theorem buttons_show_changes (screen : FormScreen) (question : Question)
    (selected : screen.selectedQuestion? = some question) (area : Area) (theme : Theme)
    (width height : Nat) :
    let parts := CounterPanel.partsOf (panelInside area theme question)
    let drawn := (screen.draw area theme (.blank width height)).2
    CounterPanel.Fits parts (panelInside area theme question) ∧
    ∀ x y, x < width → y < height →
      (parts.decrease.holds x y = true → ∃ cell, drawn.get? x y = some cell ∧
        cell.ShowsButton theme.palette (screen.Changes .decrease)) ∧
      (parts.increase.holds x y = true → ∃ cell, drawn.get? x y = some cell ∧
        cell.ShowsButton theme.palette (screen.Changes .increase)) := by
  intro parts drawn
  have fit := CounterPanel.parts_fit (panelInside area theme question)
  refine ⟨fit, fun x y column row => ?_⟩
  have tells := question.tells
  have shown := screen.draw_shows_enabled question selected area theme width height x y column row
  rw [screen.changes_iff question selected .decrease .decrease rfl,
    screen.changes_iff question selected .increase .increase rfl]
  refine ⟨fun here => ?_, fun here => ?_⟩
  · obtain ⟨cell, isCell, shows⟩ := (shown (fit.within x y (.inl here))).1 here
    rw [propext tells.decrease.2] at shows
    exact ⟨cell, isCell, shows⟩
  · obtain ⟨cell, isCell, shows⟩ := (shown (fit.within x y (.inr here))).2 here
    rw [propext tells.increase.2] at shows
    exact ⟨cell, isCell, shows⟩

def litTheme : Theme :=
  ⟨{}, { (default : Palette) with buttonEnabled := .green, buttonDisabled := .darkGray }⟩

/-- A question with the largest count can be decreased but not increased. -/
theorem buttons_show_changes_full :
    let drawn := ((ofForm pairForm).draw ⟨0, 0, 80, 24⟩ litTheme (.blank 80 24)).2
    (∃ cell, drawn.get? 30 13 = some cell ∧ cell.foreground = .green ∧ cell.bold = true) ∧
      ∃ cell, drawn.get? 75 13 = some cell ∧ cell.foreground = .darkGray ∧ cell.bold = false := by
  obtain ⟨-, buttons⟩ := buttons_show_changes (ofForm pairForm) _ rfl ⟨0, 0, 80, 24⟩ litTheme 80 24
  obtain ⟨decrease, -⟩ := buttons 30 13 (by decide) (by decide)
  obtain ⟨-, increase⟩ := buttons 75 13 (by decide) (by decide)
  obtain ⟨enabled, isEnabled, shows⟩ := decrease (by decide)
  obtain ⟨disabled, isDisabled, hides⟩ := increase (by decide)
  have changing : (ofForm pairForm).Changes .decrease := by
    unfold Changes
    decide
  have unchanging : ¬(ofForm pairForm).Changes .increase := by
    unfold Changes
    decide
  exact ⟨⟨enabled, isEnabled, shows.bright changing⟩, disabled, isDisabled, hides.dim unchanging⟩

end FormScreen

end CounterForms
