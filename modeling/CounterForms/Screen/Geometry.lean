import CounterForms.Config.Settings

/-!
Rectangles of cells, the sides of a frame, and how a length is shared out between parts.
-/

namespace CounterForms

structure Area where
  x : Nat
  y : Nat
  width : Nat
  height : Nat
deriving DecidableEq, Inhabited

namespace Area

/-- The first column behind the rectangle. -/
def right (area : Area) : Nat := area.x + area.width

/-- The first row below the rectangle. -/
def bottom (area : Area) : Nat := area.y + area.height

def isEmpty (area : Area) : Bool := area.width == 0 || area.height == 0

def holds (area : Area) (x y : Nat) : Bool :=
  area.x ≤ x && x < area.right && area.y ≤ y && y < area.bottom

def meet (one other : Area) : Area :=
  let x := max one.x other.x
  let y := max one.y other.y
  ⟨x, y, min one.right other.right - x, min one.bottom other.bottom - y⟩

def row (area : Area) (index : Nat) : Area :=
  ⟨area.x, area.y + index, area.width, if index < area.height then 1 else 0⟩

/-- The part of a rectangle between two columns, counted from its left side. -/
def columns (area : Area) (first last : Nat) : Area :=
  { area with x := area.x + first, width := last - first }

/-- The part of a rectangle between two rows, counted from its top. -/
def rows (area : Area) (first last : Nat) : Area :=
  { area with y := area.y + first, height := last - first }

end Area

structure Sides where
  top : Bool := false
  right : Bool := false
  bottom : Bool := false
  left : Bool := false
deriving DecidableEq, Inhabited

namespace Sides

def all : Sides := ⟨true, true, true, true⟩

def union (one other : Sides) : Sides :=
  ⟨one.top || other.top, one.right || other.right, one.bottom || other.bottom,
    one.left || other.left⟩

def ofChoice : BorderChoice → Sides
  | .top => { top := true }
  | .left => { left := true }
  | .right => { right := true }
  | .bottom => { bottom := true }
  | .all => all

def ofChoices : List BorderChoice → Option Sides
  | [] => none
  | first :: later =>
      some (later.foldl (fun sides choice => sides.union (ofChoice choice)) (ofChoice first))

end Sides

/-- A quotient rounded to the nearest number, a half going up. -/
def roundHalfUp (numerator denominator : Nat) : Nat :=
  (2 * numerator + denominator) / (2 * denominator)

/-- Where two shares of a length end that are given in percent. Shares that are too large together
give way to each other: the first one comes as near to a half as both allow. -/
def percentBounds (length first second : Nat) : Nat × Nat :=
  if first + second ≤ 100 then
    (roundHalfUp (length * first) 100, roundHalfUp (length * (first + second)) 100)
  else
    let least := length * (100 - second)
    let greatest := length * min first 100
    (roundHalfUp (min (max (50 * length) least) greatest) 100, length)

/-- Where four parts of a height end: two rows, as much as is left, three rows, as much as is left.
The parts in between are equal, and the first part keeps its rows the longest. -/
def counterBounds (height : Nat) : Nat × Nat × Nat :=
  if height < 5 then (min 2 height, min 2 height, height)
  else
    let rest := height - 5
    (2, roundHalfUp (4 + rest) 2, roundHalfUp (10 + rest) 2)

/-- Where the first two of three parts of a width end: two parts of eleven cells with the rest
between them. The last part keeps its cells the longest. -/
def buttonBounds (width : Nat) : Nat × Nat :=
  if 22 ≤ width then (11, width - 11) else (width - min 11 width, width - min 11 width)

/-- Where a single row begins and ends that has equal parts above and below it. -/
def middleBounds (height : Nat) : Nat × Nat :=
  if height = 0 then (0, 0) else (roundHalfUp (height - 1) 2, roundHalfUp (height + 1) 2)

end CounterForms
