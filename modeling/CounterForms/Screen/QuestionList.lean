import CounterForms.Question
import CounterForms.Screen.Choices
import CounterForms.Screen.Paragraph

/-!
The list of the questions of a form: a marker that tells whether a question is answered, its label
and its answer. Below the list stands how many questions are answered; that text is kept as long as
the numbers in it stay the same.
-/

namespace CounterForms

/-- The text for a count of answered questions, kept for the numbers it was made from. -/
structure CountText where
  answered : Nat := 0
  total : Nat := 0
  text : String := ""
deriving DecidableEq, Inhabited

def countText (answered total : Nat) : String :=
  "[" ++ Text.natText answered ++ "/" ++ Text.natText total ++ "]"

/-- Makes the text anew if there is none yet or the numbers differ. -/
def CountText.update (kept : CountText) (answered total : Nat) : CountText :=
  if kept.text.isEmpty || answered != kept.answered || total != kept.total then
    ⟨answered, total, countText answered total⟩
  else kept

structure QuestionList where
  choice : ChoiceState := {}
  count : CountText := {}
deriving DecidableEq, Inhabited

namespace QuestionList

def selected (list : QuestionList) : Nat := list.choice.selected.getD 0

def select (list : QuestionList) (index : Nat) : QuestionList :=
  { list with choice := { list.choice with selected := some index } }

def selectFirst (list : QuestionList) : QuestionList := list.select 0

/-- Goes on by one question, up to the last of `size` questions. -/
def selectNext (list : QuestionList) (size : Nat) : QuestionList :=
  if size = 0 then list else list.select (min (list.selected + 1) (size - 1))

def selectPrevious (list : QuestionList) : QuestionList := list.select (list.selected - 1)

theorem select_selected (list : QuestionList) (index : Nat) :
    (list.select index).selected = index := rfl

theorem select_next_selected (list : QuestionList) (size : Nat) (filled : 0 < size) :
    (list.selectNext size).selected = min (list.selected + 1) (size - 1) := by
  rw [selectNext, if_neg (by omega), select_selected]

def itemText (settings : ListSettings) (question : Question) : String :=
  if question.isAnswered then
    settings.iconAnswered ++ " " ++ question.label ++ ": " ++ question.text
  else settings.iconUnanswered ++ " " ++ question.label

def textStyle (settings : ListSettings) (palette : Palette) : Style :=
  Style.weighted { foreground := some palette.textList, background := some palette.backgroundList }
    settings.fontWeight

def highlightStyle (settings : ListSettings) (palette : Palette) : Style :=
  Style.weighted
    { foreground := some palette.highlightsText, background := some palette.highlightsBackground }
    settings.fontWeight

def choices (settings : ListSettings) (palette : Palette) (questions : List Question) :
    Choices where
  items := questions.map fun question => Text.shownLines (itemText settings question).toList
  style := textStyle settings palette
  highlight := highlightStyle settings palette
  mark := Text.lines settings.highlightSymbol.toList

def border (settings : ListSettings) (palette : Palette) : Border where
  sides := (Sides.ofChoices settings.borders).getD {}
  sideStyle :=
    { foreground := some palette.bordersList, background := some palette.backgroundList }
  title := some "Questions"

def listArea (inside : Area) : Area := inside.rows 0 (inside.height - 1)

def countArea (inside : Area) : Area := inside.rows (inside.height - 1) inside.height

def draw (list : QuestionList) (area : Area) (questions : List Question) (settings : ListSettings)
    (palette : Palette) (canvas : Canvas) : QuestionList × Canvas :=
  let frame := border settings palette
  let inside := frame.inside area
  let framed := frame.draw area canvas
  let count := list.count.update (questions.countP Question.isAnswered) questions.length
  let counted := Paragraph.draw
    { text := count.text, style := textStyle settings palette, alignment := .right }
    (countArea inside) framed
  let shown := choices settings palette questions
  (⟨shown.settle (listArea inside) list.choice, count⟩,
    shown.draw (listArea inside) list.choice counted)

theorem draw_selected (list : QuestionList) (area : Area) (questions : List Question)
    (settings : ListSettings) (palette : Palette) (canvas : Canvas)
    (within : list.selected < questions.length) :
    (list.draw area questions settings palette canvas).1.selected = list.selected := by
  have counted : (choices settings palette questions).items.length = questions.length :=
    List.length_map ..
  have filled : (choices settings palette questions).items ≠ [] := by
    intro empty
    rw [empty] at counted
    rw [← counted] at within
    exact absurd within (Nat.not_lt_zero _)
  have chosen : ∀ index, list.choice.selected = some index →
      index < (choices settings palette questions).items.length := by
    intro index isChosen
    rw [counted]
    rw [selected, isChosen] at within
    exact within
  exact congrArg (fun selected => selected.getD 0)
    ((choices settings palette questions).settle_selected _ list.choice filled chosen)

end QuestionList

end CounterForms
