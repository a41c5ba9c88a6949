import CounterForms.Screen.Canvas

/-!
A canvas as the control sequences that make a terminal show it: row by row, every cell with its
colours and weights and then its symbol. A cell that the symbol before it covers is left out.
-/

namespace CounterForms

namespace Terminal

def controlStart : String := "\x1b["

def enterScreen : String := controlStart ++ "?1049h" ++ controlStart ++ "?25l"

/-- The numbers of a colour, given the number of black and of the first light colour. -/
def colorNumbers (dark light : Nat) : Color → List Nat
  | .reset => [dark + 9]
  | .black => [dark]
  | .red => [dark + 1]
  | .green => [dark + 2]
  | .yellow => [dark + 3]
  | .blue => [dark + 4]
  | .magenta => [dark + 5]
  | .cyan => [dark + 6]
  | .gray => [dark + 7]
  | .darkGray => [light]
  | .lightRed => [light + 1]
  | .lightGreen => [light + 2]
  | .lightYellow => [light + 3]
  | .lightBlue => [light + 4]
  | .lightMagenta => [light + 5]
  | .lightCyan => [light + 6]
  | .white => [light + 7]
  | .mixed red green blue => [dark + 8, 2, red.toNat, green.toNat, blue.toNat]

def control (numbers : List Nat) (last : String) : String :=
  controlStart ++ ";".intercalate (numbers.map Text.natText) ++ last

def cellText (cell : Cell) : String :=
  control
    ([0] ++ colorNumbers 30 90 cell.foreground ++ colorNumbers 40 100 cell.background ++
      (if cell.bold then [1] else []) ++ (if cell.italic then [3] else [])) "m" ++
    String.ofList cell.symbol

/-- The cells of a row that are not covered; `covered` tells how many of the first ones are. -/
def rowText : Nat → List Cell → String
  | _, [] => ""
  | 0, cell :: later => cellText cell ++ rowText (Text.width cell.symbol - 1) later
  | covered + 1, _ :: later => rowText covered later

def canvasText (canvas : Canvas) : String :=
  String.join ((List.range canvas.height).map fun y =>
    control [y + 1, 1] "H" ++ rowText 0 (canvas.row y))

end Terminal

end CounterForms
