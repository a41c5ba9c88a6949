import CounterForms.Screen.Canvas

/-!
Cells of a canvas before and after it is drawn on. Drawing keeps the size of a canvas, so each place
that showed a cell shows one afterwards, and what becomes of it is told by a relation of cells that
may differ from place to place. Relations that are kept by every step are kept by the whole drawing.
-/

namespace CounterForms

theorem Area.holds_iff (area : Area) (x y : Nat) :
    area.holds x y = true ↔
      area.x ≤ x ∧ x < area.x + area.width ∧ area.y ≤ y ∧ y < area.y + area.height := by
  simp only [Area.holds, Bool.and_eq_true, decide_eq_true_eq, and_assoc]
  rfl

/-- A place of a canvas lies in the visible part of a rectangle exactly if it lies in the
rectangle. -/
theorem Area.meet_holds_iff (area other : Area) (x y : Nat) :
    (area.meet other).holds x y = true ↔ area.holds x y = true ∧ other.holds x y = true := by
  simp only [Area.holds_iff, Area.meet, Area.right, Area.bottom]
  omega

namespace Canvas

theorem get_blank (width height x y : Nat) (column : x < width) (row : y < height) :
    (blank width height).get? x y = some {} := by
  have within : y * width + x < width * height := by
    calc y * width + x < y * width + width := Nat.add_lt_add_left column _
      _ = (y + 1) * width := (Nat.succ_mul y width).symm
      _ ≤ height * width := Nat.mul_le_mul_right width row
      _ = width * height := Nat.mul_comm height width
  show (if x < width ∧ y < height then
    (Array.replicate (width * height) ({} : Cell))[y * width + x]? else none) = some {}
  rw [if_pos ⟨column, row⟩, Array.getElem?_replicate, if_pos within]

theorem get_within (canvas : Canvas) (x y : Nat) (cell : Cell)
    (shown : canvas.get? x y = some cell) : canvas.area.holds x y = true := by
  unfold get? at shown
  split at shown
  next within => simpa [Area.holds_iff, area] using within
  next => cases shown

/-- Rows and columns number the cells without repetition. -/
theorem place_iff (width x y column row : Nat) (within : column < width) (inside : x < width) :
    row * width + column = y * width + x ↔ column = x ∧ row = y := by
  constructor
  · intro same
    have columns := congrArg (· % width) same
    simp only [Nat.mul_add_mod_self_right, Nat.mod_eq_of_lt within, Nat.mod_eq_of_lt inside]
      at columns
    subst columns
    have positive : 0 < width := Nat.zero_lt_of_lt within
    exact ⟨rfl, Nat.eq_of_mul_eq_mul_right positive (Nat.add_right_cancel same)⟩
  · rintro ⟨rfl, rfl⟩
    rfl

theorem get_change (canvas : Canvas) (column row : Nat) (act : Cell → Cell) (x y : Nat) :
    (canvas.change column row act).get? x y =
      if column = x ∧ row = y then (canvas.get? x y).map act else canvas.get? x y := by
  unfold change
  split
  next within =>
    show (if x < canvas.width ∧ y < canvas.height then
      (canvas.cells.modify (row * canvas.width + column) act)[y * canvas.width + x]? else none) = _
    unfold get?
    by_cases inside : x < canvas.width ∧ y < canvas.height
    · rw [if_pos inside, if_pos inside, Array.getElem?_modify]
      simp only [place_iff canvas.width x y column row within.1 inside.1]
    · simp [inside]
  next beside =>
    split
    next here =>
      obtain ⟨rfl, rfl⟩ := here
      rw [get?, if_neg beside]
      rfl
    next => rfl

theorem get_paint (canvas : Canvas) (area : Area) (act : Cell → Cell) (x y : Nat) :
    (canvas.paint area act).get? x y =
      if area.holds x y then (canvas.get? x y).map act else canvas.get? x y := by
  show (if x < canvas.width ∧ y < canvas.height then
    (canvas.cells.mapIdx fun index cell =>
      if area.holds (index % canvas.width) (index / canvas.width) then act cell
      else cell)[y * canvas.width + x]? else none) = _
  unfold get?
  by_cases inside : x < canvas.width ∧ y < canvas.height
  · have column : (y * canvas.width + x) % canvas.width = x := by
      rw [Nat.mul_add_mod_self_right, Nat.mod_eq_of_lt inside.1]
    have row : (y * canvas.width + x) / canvas.width = y := by
      rw [Nat.mul_comm, Nat.mul_add_div (Nat.zero_lt_of_lt inside.1), Nat.div_eq_of_lt inside.1,
        Nat.add_zero]
    rw [if_pos inside, if_pos inside, Array.getElem?_mapIdx, column, row]
    split
    · rfl
    · exact Option.map_id'
  · simp [inside]

abbrev CellChange := Nat → Nat → Cell → Cell → Prop

/-- Changes that may come one after the other, and none at all. -/
structure CellChange.Composes (allowed : CellChange) : Prop where
  refl : ∀ x y cell, allowed x y cell cell
  trans : ∀ {x y one two three}, allowed x y one two → allowed x y two three →
    allowed x y one three

def Becomes (allowed : CellChange) (before after : Canvas) : Prop :=
  ∀ x y was, before.get? x y = some was → ∃ now, after.get? x y = some now ∧ allowed x y was now

variable {allowed : CellChange} {before between after : Canvas}

theorem Becomes.mono {others : CellChange} (becomes : before.Becomes allowed after)
    (weaker : ∀ x y was now, allowed x y was now → others x y was now) :
    before.Becomes others after := by
  intro x y was shown
  obtain ⟨now, isShown, change⟩ := becomes x y was shown
  exact ⟨now, isShown, weaker x y was now change⟩

section

variable (composes : CellChange.Composes allowed)
include composes

theorem Becomes.refl (canvas : Canvas) : canvas.Becomes allowed canvas :=
  fun x y was shown => ⟨was, shown, composes.refl x y was⟩

theorem Becomes.trans (first : before.Becomes allowed between)
    (second : between.Becomes allowed after) : before.Becomes allowed after := by
  intro x y was shown
  obtain ⟨middle, isMiddle, toMiddle⟩ := first x y was shown
  obtain ⟨now, isNow, toNow⟩ := second x y middle isMiddle
  exact ⟨now, isNow, composes.trans toMiddle toNow⟩

theorem change_becomes (canvas : Canvas) (column row : Nat) (act : Cell → Cell)
    (acts : ∀ cell, allowed column row cell (act cell)) :
    canvas.Becomes allowed (canvas.change column row act) := by
  intro x y was shown
  rw [get_change]
  split
  next here =>
    obtain ⟨rfl, rfl⟩ := here
    exact ⟨act was, by rw [shown]; rfl, acts was⟩
  next => exact ⟨was, shown, composes.refl x y was⟩

theorem paint_becomes (canvas : Canvas) (area : Area) (act : Cell → Cell)
    (acts : ∀ x y cell, area.holds x y = true → allowed x y cell (act cell)) :
    canvas.Becomes allowed (canvas.paint area act) := by
  intro x y was shown
  rw [get_paint]
  split
  next inside => exact ⟨act was, by rw [shown]; rfl, acts x y was inside⟩
  next => exact ⟨was, shown, composes.refl x y was⟩

end

end Canvas

end CounterForms
