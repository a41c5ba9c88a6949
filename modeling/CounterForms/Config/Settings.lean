import CounterForms.Decimal.Binary64
import CounterForms.Key.Bindings
import CounterForms.Palette.Resolved
import CounterForms.Text.Width

/-!
The settings of the program. Every setting has a value of its own that holds where a configuration
says nothing about it. The shares of a split have to fill the width, and the labels of the buttons
take one cell each; chords are judged when they are read, and colours when the screen is set up.
-/

namespace CounterForms

inductive FontWeight
  | bold
  | regular
deriving DecidableEq, Inhabited

inductive BorderChoice
  | top
  | left
  | right
  | bottom
  | all
deriving DecidableEq, Inhabited

structure ListSettings where
  highlightSymbol : String := "→"
  iconAnswered : String := "▣"
  iconUnanswered : String := "□"
  fontWeight : FontWeight := .regular
  borders : List BorderChoice := [.all]
deriving DecidableEq, Inhabited

structure CounterSettings where
  increaseLabel : String := "+"
  decreaseLabel : String := "-"
  emptyPlaceholder : String := ""
  showHint : Bool := true
  fontWeight : FontWeight := .bold
  borders : List BorderChoice := [.all]
deriving DecidableEq, Inhabited

/-- How the status bar looks. The two shares are percentages of its width. -/
structure StatusSettings where
  leftShare : Nat := 50
  rightShare : Nat := 50
  borders : List BorderChoice := [.all]
  fontWeight : FontWeight := .bold
  idleIcon : String := "✔"
  modifiedIcon : String := "✎"
  savedIcon : String := "✔"
  errorIcon : String := "⛌"
deriving DecidableEq, Inhabited

structure ScaffoldSettings where
  leftShare : Nat := 35
  rightShare : Nat := 65
deriving DecidableEq, Inhabited

structure StyleSettings where
  list : ListSettings := {}
  counter : CounterSettings := {}
  status : StatusSettings := {}
  scaffold : ScaffoldSettings := {}
  colors : PaletteTexts := {}
deriving DecidableEq, Inhabited

structure Config where
  defaultForm : Option String := none
  bindings : BindingTexts := .standard
  styles : StyleSettings := {}
  statusBar : Bool := true
  saveOnExit : Bool := true

inductive SettingsFault
  | scaffoldShares
  | statusShares
  | buttonLabel (field : String) (label : String)
deriving DecidableEq

def SettingsFault.message : SettingsFault → String
  | .scaffoldShares => "Screen scaffold style left and right split must amount to 100"
  | .statusShares => "Status style left and right split must amount to 100"
  | .buttonLabel field label =>
      "Counter " ++ field ++ " '" ++ label ++ "' must occupy a single terminal cell"

/-- Whether two shares amount to the whole. Shares are added in words of 16 bits. -/
def fillsWhole (left right : Nat) : Bool := Word.sum 16 left right == 100

/-- Judges the settings of splits and labels, the first fault being reported. -/
def StyleSettings.check (styles : StyleSettings) : Except SettingsFault Unit :=
  if !fillsWhole styles.scaffold.leftShare styles.scaffold.rightShare then throw .scaffoldShares
  else if !fillsWhole styles.status.leftShare styles.status.rightShare then throw .statusShares
  else if Text.textWidth styles.counter.increaseLabel ≠ 1 then
    throw (.buttonLabel "increase_label" styles.counter.increaseLabel)
  else if Text.textWidth styles.counter.decreaseLabel ≠ 1 then
    throw (.buttonLabel "decrease_label" styles.counter.decreaseLabel)
  else pure ()

end CounterForms
