import CounterForms.Screen.Paragraph

/-!
The status bar: the title of the form on the left, and on the right how the answers stand, with an
icon behind it.
-/

namespace CounterForms

inductive Status
  | idle
  | modified
  | saved
  | error (message : String)
deriving DecidableEq, Inhabited

namespace Status

def text : Status → String
  | idle => ""
  | modified => "Modified"
  | saved => "Saved"
  | error message => "Error: " ++ message

def icon (settings : StatusSettings) : Status → String
  | idle => settings.idleIcon
  | modified => settings.modifiedIcon
  | saved => settings.savedIcon
  | error _ => settings.errorIcon

def line (settings : StatusSettings) (status : Status) : String :=
  status.text ++ " " ++ status.icon settings ++ " "

end Status

namespace StatusBar

def border (settings : StatusSettings) (palette : Palette) : Border where
  sides := (Sides.ofChoices settings.borders).getD {}
  sideStyle :=
    { foreground := some palette.bordersStatus, background := some palette.backgroundStatus }

def textStyle (settings : StatusSettings) (palette : Palette) : Style :=
  Style.weighted
    { foreground := some palette.textStatus, background := some palette.backgroundStatus }
    settings.fontWeight

def draw (area : Area) (title : String) (status : Status) (settings : StatusSettings)
    (palette : Palette) (canvas : Canvas) : Canvas :=
  let frame := border settings palette
  let inside := frame.inside area
  let (rowStart, rowEnd) := middleBounds inside.height
  let row := inside.rows rowStart rowEnd
  let (leftEnd, rightEnd) := percentBounds row.width settings.leftShare settings.rightShare
  let style := textStyle settings palette
  (frame.draw area canvas)
    |> Paragraph.draw { text := title, style := style } (row.columns 0 leftEnd)
    |> Paragraph.draw { text := status.line settings, style := style, alignment := .right }
      (row.columns leftEnd rightEnd)

end StatusBar

end CounterForms
