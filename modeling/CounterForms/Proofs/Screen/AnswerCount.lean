import CounterForms.Proofs.Text.Basic
import CounterForms.Screen.QuestionList

/-!
The count below the list of questions. Its text is kept between drawings, but only ever together
with the numbers it was made from; so whatever has been drawn before, the list is drawn as if the
text were made anew.
-/

namespace CounterForms

/-- No text was made yet, or the text is that of the numbers kept with it. -/
def CountText.Current (kept : CountText) : Prop :=
  kept.text = "" ∨ kept.text = countText kept.answered kept.total

/-- A current text is brought up to date as if there were none. -/
theorem CountText.Current.update_eq {kept : CountText} (current : kept.Current)
    (answered total : Nat) :
    kept.update answered total = ⟨answered, total, countText answered total⟩ := by
  unfold CountText.update
  split
  · rfl
  next stays =>
    simp only [Bool.or_eq_true, bne_iff_ne, not_or, not_not, String.isEmpty_iff] at stays
    obtain ⟨⟨made, sameAnswered⟩, sameTotal⟩ := stays
    have same : kept.text = countText kept.answered kept.total := current.resolve_left made
    rw [sameAnswered, sameTotal, ← same]

theorem CountText.Current.update {kept : CountText} (current : kept.Current)
    (answered total : Nat) : (kept.update answered total).Current := by
  rw [current.update_eq]
  exact .inr rfl

theorem count_text_characters (answered total : Nat) :
    (countText answered total).toList =
      '[' :: (Text.natNumeral answered ++ '/' :: (Text.natNumeral total ++ [']'])) := by
  simp [countText, Text.natText]

theorem take_numeral (value : Nat) (mark : Char) (later : List Char)
    (noDigit : Text.isDigit mark = false) :
    (Text.natNumeral value ++ mark :: later).takeWhile Text.isDigit = Text.natNumeral value := by
  rw [List.takeWhile_append_of_pos (Text.nat_numeral_digits value),
    List.takeWhile_cons_of_neg (by simp [noDigit]), List.append_nil]

/-- The text of a count tells both of its numbers. -/
theorem count_text_inj (answered total otherAnswered otherTotal : Nat) :
    countText answered total = countText otherAnswered otherTotal ↔
      answered = otherAnswered ∧ total = otherTotal := by
  constructor
  · intro same
    have characters := congrArg String.toList same
    rw [count_text_characters, count_text_characters] at characters
    have behind := (List.cons.inj characters).2
    have numerals := congrArg (List.takeWhile Text.isDigit) behind
    rw [take_numeral _ _ _ rfl, take_numeral _ _ _ rfl] at numerals
    rw [numerals] at behind
    have totals := congrArg (List.takeWhile Text.isDigit)
      (List.cons.inj (List.append_cancel_left behind)).2
    rw [take_numeral _ _ _ rfl, take_numeral _ _ _ rfl] at totals
    have worth (one other : Nat) (spelled : Text.natNumeral one = Text.natNumeral other) :
        one = other := by
      rw [← Text.digits_value_nat_numeral one, spelled, Text.digits_value_nat_numeral]
    exact ⟨worth _ _ numerals, worth _ _ totals⟩
  · rintro ⟨rfl, rfl⟩
    rfl

/-- What happens to a list of questions. Each drawing may be of other questions, in another
rectangle and theme. -/
inductive ListTurn
  | selectFirst
  | selectNext (size : Nat)
  | selectPrevious
  | draw (area : Area) (questions : List Question) (settings : ListSettings) (palette : Palette)
    (canvas : Canvas)

namespace QuestionList

def turn (list : QuestionList) : ListTurn → QuestionList
  | .selectFirst => list.selectFirst
  | .selectNext size => list.selectNext size
  | .selectPrevious => list.selectPrevious
  | .draw area questions settings palette canvas =>
      (list.draw area questions settings palette canvas).1

def run (list : QuestionList) (turns : List ListTurn) : QuestionList := turns.foldl turn list

theorem turn_current (list : QuestionList) (turn : ListTurn) (current : list.count.Current) :
    (list.turn turn).count.Current := by
  cases turn with
  | selectFirst => exact current
  | selectNext size =>
      show (list.selectNext size).count.Current
      unfold selectNext
      split <;> exact current
  | selectPrevious => exact current
  | draw area questions settings palette canvas => exact current.update _ _

theorem run_current (list : QuestionList) (turns : List ListTurn) (current : list.count.Current) :
    (list.run turns).count.Current := by
  induction turns generalizing list with
  | nil => exact current
  | cons turn later induction => exact induction (list.turn turn) (list.turn_current turn current)

def countOf (questions : List Question) : String :=
  let answered := (questions.filter fun question => question.answer.isSome).length
  "[" ++ Text.natText answered ++ "/" ++ Text.natText questions.length ++ "]"

/-- Draws a list of questions that remembers no text: the frame, the count, and the questions. -/
def drawAnew (choice : ChoiceState) (area : Area) (questions : List Question)
    (settings : ListSettings) (palette : Palette) (canvas : Canvas) : Canvas :=
  let frame := border settings palette
  let inside := frame.inside area
  let count : Paragraph :=
    { text := countOf questions, style := textStyle settings palette, alignment := .right }
  frame.draw area canvas
    |> count.draw (countArea inside)
    |> (choices settings palette questions).draw (listArea inside) choice

theorem draw_current (list : QuestionList) (current : list.count.Current) (area : Area)
    (questions : List Question) (settings : ListSettings) (palette : Palette) (canvas : Canvas) :
    list.draw area questions settings palette canvas =
      (⟨(choices settings palette questions).settle
          (listArea ((border settings palette).inside area)) list.choice,
        ⟨questions.countP Question.isAnswered, questions.length, countOf questions⟩⟩,
      drawAnew list.choice area questions settings palette canvas) := by
  have text : countText (questions.countP Question.isAnswered) questions.length =
      countOf questions := by
    unfold countText countOf
    rw [List.countP_eq_length_filter]
    rfl
  unfold draw
  dsimp only
  rw [current.update_eq, text]
  rfl

/-- Whatever has happened to a list, and whatever questions it drew before: it is drawn next like a
list that makes its choice but remembers no text, and remembers the same afterwards. The text that
is drawn counts the questions given and those of them that are answered, and is not the text of any
other numbers. -/
theorem runs_draw_anew (turns : List ListTurn) (area : Area) (questions : List Question)
    (settings : ListSettings) (palette : Palette) (canvas : Canvas) :
    let list := ({} : QuestionList).run turns
    let drawn := list.draw area questions settings palette canvas
    drawn = ({ list with count := {} } : QuestionList).draw area questions settings palette canvas ∧
    drawn.2 = drawAnew list.choice area questions settings palette canvas ∧
    drawn.1.count.text = countOf questions ∧
    ∀ answered total, countOf questions = countText answered total ↔
      (questions.filter fun question => question.answer.isSome).length = answered ∧
        questions.length = total := by
  intro list drawn
  have current : list.count.Current := run_current {} turns (.inl rfl)
  have fresh := draw_current { list with count := {} } (.inl rfl) area questions settings palette
    canvas
  have same := list.draw_current current area questions settings palette canvas
  refine ⟨same.trans fresh.symm, congrArg Prod.snd same, ?_, fun answered total => ?_⟩
  · exact congrArg (fun drawn => drawn.1.count.text) same
  · exact count_text_inj _ _ answered total

end QuestionList

end CounterForms
