import CounterForms.Palette.Color

/-!
The palette of the screen. Every part of the screen has a colour of its own, which may be left out;
then the colour that the part falls back on holds: a nearer one for hints and buttons, and one of
the three base colours for the rest.
-/

namespace CounterForms

structure PaletteTexts where
  highlightsBackground : String := "terminal"
  highlightsText : String := "terminal"
  borders : String := "terminal"
  bordersList : String := ""
  bordersCounter : String := ""
  bordersStatus : String := ""
  text : String := "terminal"
  textList : String := ""
  textCounter : String := ""
  textHint : String := ""
  textStatus : String := ""
  buttonEnabled : String := ""
  buttonDisabled : String := "darkgray"
  background : String := "terminal"
  backgroundList : String := ""
  backgroundCounter : String := ""
  backgroundStatus : String := ""
deriving DecidableEq, Inhabited

structure Palette where
  highlightsText : Color
  highlightsBackground : Color
  bordersList : Color
  bordersCounter : Color
  bordersStatus : Color
  textList : Color
  textCounter : Color
  textHint : Color
  textStatus : Color
  buttonEnabled : Color
  buttonDisabled : Color
  background : Color
  backgroundList : Color
  backgroundCounter : Color
  backgroundStatus : Color
deriving DecidableEq, Inhabited

/-- The colour of a text, or the one to fall back on if the text names none. -/
def Color.ofTextOr (fallback : Color) (text : String) : Except ColorFault Color := do
  let color ← Color.ofText? text
  pure (color.getD fallback)

/-- Resolves all colours. Of several faults the first in this order is reported. -/
def Palette.ofTexts (texts : PaletteTexts) : Except ColorFault Palette := do
  let borders ← Color.ofTextOr .reset texts.borders
  let text ← Color.ofTextOr .reset texts.text
  let background ← Color.ofTextOr .reset texts.background
  let textCounter ← Color.ofTextOr text texts.textCounter
  let highlightsText ← Color.ofTextOr .reset texts.highlightsText
  let highlightsBackground ← Color.ofTextOr .reset texts.highlightsBackground
  let bordersList ← Color.ofTextOr borders texts.bordersList
  let bordersCounter ← Color.ofTextOr borders texts.bordersCounter
  let bordersStatus ← Color.ofTextOr borders texts.bordersStatus
  let textList ← Color.ofTextOr text texts.textList
  let textHint ← Color.ofTextOr textCounter texts.textHint
  let textStatus ← Color.ofTextOr text texts.textStatus
  let buttonEnabled ← Color.ofTextOr textCounter texts.buttonEnabled
  let buttonDisabled ← Color.ofTextOr .darkGray texts.buttonDisabled
  let backgroundList ← Color.ofTextOr background texts.backgroundList
  let backgroundCounter ← Color.ofTextOr background texts.backgroundCounter
  let backgroundStatus ← Color.ofTextOr background texts.backgroundStatus
  pure {
    highlightsText, highlightsBackground, bordersList, bordersCounter, bordersStatus, textList,
    textCounter, textHint, textStatus, buttonEnabled, buttonDisabled, background, backgroundList,
    backgroundCounter, backgroundStatus }

end CounterForms
