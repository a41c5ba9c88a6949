import CounterForms.Proofs.Outcome
import CounterForms.Screen.FormScreen

/-!
Which palettes can be resolved. Each text is read on its own, and what a part of the screen falls
back on never decides whether its text can be read; so a palette is resolved exactly if every text
can be, and otherwise the first text in the order of reading that cannot be is reported.
-/

namespace CounterForms

/-- The fault of the first text that names no colour and is not blank. -/
def firstColorFault? (texts : List String) : Option ColorFault :=
  texts.findSome? fun text => faultOf? (Color.ofText? text)

/-- A text that names a colour or is blank. -/
def Color.Reads (text : String) : Prop := ∃ color, Color.ofText? text = .ok color

theorem first_fault_none (texts : List String) :
    firstColorFault? texts = none ↔ ∀ text ∈ texts, Color.Reads text := by
  simp only [firstColorFault?, List.findSome?_eq_none_iff, fault_of_none, Color.Reads]

theorem first_fault_some (texts : List String) (fault : ColorFault) :
    firstColorFault? texts = some fault ↔ ∃ before text later, texts = before ++ text :: later ∧
      Color.ofText? text = .error fault ∧ ∀ earlier ∈ before, Color.Reads earlier := by
  simp only [firstColorFault?, List.findSome?_eq_some_iff, fault_of_some, fault_of_none,
    Color.Reads]

/-- All texts of colours, in the order in which they are read. -/
def PaletteTexts.inReadingOrder (texts : PaletteTexts) : List String :=
  [texts.borders, texts.text, texts.background, texts.textCounter, texts.highlightsText,
    texts.highlightsBackground, texts.bordersList, texts.bordersCounter, texts.bordersStatus,
    texts.textList, texts.textHint, texts.textStatus, texts.buttonEnabled, texts.buttonDisabled,
    texts.backgroundList, texts.backgroundCounter, texts.backgroundStatus]

/-- A text is read first and then the later ones, whatever colour it has given. -/
theorem fault_of_reading {Content : Type} (fallback : Color) (text : String) (later : List String)
    (next : Color → Except ColorFault Content)
    (reads : ∀ color, faultOf? (next color) = firstColorFault? later) :
    faultOf? (Color.ofTextOr fallback text >>= next) = firstColorFault? (text :: later) := by
  unfold Color.ofTextOr firstColorFault?
  rw [List.findSome?_cons]
  cases Color.ofText? text with
  | error fault => rfl
  | ok color => exact reads (color.getD fallback)

theorem palette_fault (texts : PaletteTexts) :
    faultOf? (Palette.ofTexts texts) = firstColorFault? texts.inReadingOrder := by
  unfold Palette.ofTexts PaletteTexts.inReadingOrder
  iterate 17
    apply fault_of_reading
    intro _
  rfl

theorem theme_fault (settings : StyleSettings) :
    faultOf? (Theme.ofSettings settings) = firstColorFault? settings.colors.inReadingOrder := by
  rw [← palette_fault, Theme.ofSettings]
  cases Palette.ofTexts settings.colors <;> rfl

end CounterForms
