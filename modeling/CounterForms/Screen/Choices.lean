import CounterForms.Screen.Line

/-!
A list to choose from. It shows as many items as fit, starting from an offset that moves only as far
as it must to keep the chosen item in sight. Items may have several lines.
-/

namespace CounterForms

structure ChoiceState where
  offset : Nat := 0
  selected : Option Nat := none
deriving DecidableEq, Inhabited

structure Choices where
  /-- The lines of every item. -/
  items : List (List (List Char))
  style : Style
  highlight : Style
  /-- What stands before the chosen item, as lines that are joined. -/
  mark : List (List Char)

namespace Choices

structure Window where
  first : Nat
  last : Nat
  height : Nat
deriving DecidableEq

def heightAt (heights : List Nat) (index : Nat) : Nat := heights[index]?.getD 0

def dropTop (heights : List Nat) (room : Nat) : Nat → Window → Window
  | 0, window => window
  | steps + 1, window =>
      if room < window.height then
        dropTop heights room steps
          ⟨window.first + 1, window.last, window.height - heightAt heights window.first⟩
      else window

def dropBottom (heights : List Nat) (room : Nat) : Nat → Window → Window
  | 0, window => window
  | steps + 1, window =>
      if room < window.height then
        dropBottom heights room steps
          ⟨window.first, window.last - 1, window.height - heightAt heights (window.last - 1)⟩
      else window

def growDown (heights : List Nat) (room index : Nat) : Nat → Window → Window
  | 0, window => window
  | steps + 1, window =>
      if window.last ≤ index then
        growDown heights room index steps
          (dropTop heights room heights.length
            ⟨window.first, window.last + 1, window.height + heightAt heights window.last⟩)
      else window

def growUp (heights : List Nat) (room index : Nat) : Nat → Window → Window
  | 0, window => window
  | steps + 1, window =>
      if index < window.first then
        growUp heights room index steps
          (dropBottom heights room heights.length
            ⟨window.first - 1, window.last, window.height + heightAt heights (window.first - 1)⟩)
      else window

def fitting (room : Nat) : Nat → List Nat → Nat × Nat
  | used, [] => (0, used)
  | used, height :: later =>
      if room < used + height then (0, used)
      else
        let (count, total) := fitting room (used + height) later
        (count + 1, total)

def window (heights : List Nat) (state : ChoiceState) (room : Nat) : Window :=
  let offset := min state.offset (heights.length - 1)
  let (count, height) := fitting room 0 (heights.drop offset)
  let start : Window := ⟨offset, offset + count, height⟩
  let index := match state.selected with
    | some selected => min selected (heights.length - 1)
    | none => offset
  growUp heights room index heights.length (growDown heights room index heights.length start)

def drawItemLines (canvas : Canvas) (area : Area) : Nat → List (List Char) → Canvas
  | _, [] => canvas
  | index, line :: later =>
      drawItemLines (drawLine canvas (area.row index) {} [line]) area (index + 1) later

/-- Draws the mark before the first line of the chosen item, and blanks before all other lines. -/
def drawMarks (choices : Choices) (canvas : Canvas) (x y : Nat) (chosen : Bool) : Nat → Nat → Canvas
  | _, 0 => canvas
  | index, count + 1 =>
      let width := Text.totalWidth choices.mark
      let spans :=
        if chosen && index == 0 then choices.mark else [List.replicate width ' ']
      choices.drawMarks (drawLine canvas ⟨x, y + index, width, 1⟩ {} spans) x y chosen (index + 1)
        count

def drawItem (choices : Choices) (canvas : Canvas) (area : Area) (y : Nat)
    (selected : Option Nat) (index : Nat) (lines : List (List Char)) : Canvas :=
  let row : Area := ⟨area.x, y, area.width, lines.length⟩
  let styled := canvas.restyle row choices.style
  let width := if selected.isSome then Text.totalWidth choices.mark else 0
  let inside : Area := { row with x := row.x + width, width := row.width - width }
  let drawn := drawItemLines styled (inside.meet canvas.area) 0 lines
  let chosen := selected == some index
  let highlighted := if chosen then drawn.restyle row choices.highlight else drawn
  if selected.isSome then choices.drawMarks highlighted row.x row.y chosen 0 lines.length
  else highlighted

def drawItems (choices : Choices) (area : Area) (selected : Option Nat) :
    Canvas → Nat → List (Nat × List (List Char)) → Canvas
  | canvas, _, [] => canvas
  | canvas, y, (index, lines) :: later =>
      choices.drawItems area selected (choices.drawItem canvas area y selected index lines)
        (y + lines.length) later

def heights (choices : Choices) : List Nat := choices.items.map List.length

/-- Keeps the choice within the items: of an item behind the last, the last is chosen instead. -/
def within (choices : Choices) (state : ChoiceState) : ChoiceState :=
  { state with selected := state.selected.map fun index => min index (choices.items.length - 1) }

/-- What a list remembers once it is drawn. Without items none is chosen. -/
def settle (choices : Choices) (area : Area) (state : ChoiceState) : ChoiceState :=
  if area.isEmpty then state
  else if choices.items.isEmpty then {}
  else
    let kept := choices.within state
    { kept with offset := (window choices.heights kept area.height).first }

/-- A choice within the items of a list is kept when the list is drawn. -/
theorem settle_selected (choices : Choices) (area : Area) (state : ChoiceState)
    (filled : choices.items ≠ [])
    (within : ∀ index, state.selected = some index → index < choices.items.length) :
    (choices.settle area state).selected = state.selected := by
  unfold settle
  split
  · rfl
  · rw [if_neg (by simpa using filled)]
    show state.selected.map (fun index => min index (choices.items.length - 1)) = state.selected
    cases chosen : state.selected with
    | none => rfl
    | some index =>
        have bound := within index chosen
        have kept : min index (choices.items.length - 1) = index := by omega
        exact congrArg some kept

def draw (choices : Choices) (area : Area) (state : ChoiceState) (canvas : Canvas) : Canvas :=
  let styled := canvas.restyle area choices.style
  if area.isEmpty || choices.items.isEmpty then styled
  else
    let kept := choices.within state
    let shown := window choices.heights kept area.height
    let items := (choices.items.zipIdx.map fun (lines, index) => (index, lines)).drop shown.first
    choices.drawItems area kept.selected styled area.y (items.take (shown.last - shown.first))

end Choices

end CounterForms
