import CounterForms.Proofs.Screen.Canvas
import CounterForms.Screen.Choices
import CounterForms.Screen.Paragraph

/-!
What lines, frames, paragraphs and lists make of the cells of a canvas. Text in a style that is not
bold makes no cell bold. A frame and a paragraph without a title change the look of cells in their
rectangle only, and a list makes cells bold in its columns only.
-/

namespace CounterForms

open Canvas

def Cell.look (cell : Cell) : Style := ⟨cell.foreground, cell.background, cell.bold, cell.italic⟩

def NoBolder (region : Nat → Nat → Prop) : CellChange :=
  fun x y was now => region x y → now.bold = true → was.bold = true

def KeepsLook (region : Nat → Nat → Prop) : CellChange :=
  fun x y was now => region x y → now.look = was.look

abbrev NeverBolder : CellChange := NoBolder fun _ _ => True

theorem no_bolder_composes (region : Nat → Nat → Prop) : (NoBolder region).Composes where
  refl _ _ _ _ bold := bold
  trans toMiddle toLast here bold := toMiddle here (toLast here bold)

theorem keeps_look_composes (region : Nat → Nat → Prop) : (KeepsLook region).Composes where
  refl _ _ _ _ := rfl
  trans toMiddle toLast here := (toLast here).trans (toMiddle here)

theorem never_bolder_composes : NeverBolder.Composes := no_bolder_composes _

theorem NeverBolder.within {before after : Canvas} (never : before.Becomes NeverBolder after)
    (region : Nat → Nat → Prop) : before.Becomes (NoBolder region) after :=
  never.mono fun _ _ _ _ change _ bold => change trivial bold

theorem KeepsLook.no_bolder {before after : Canvas} {region : Nat → Nat → Prop}
    (keeps : before.Becomes (KeepsLook region) after) : before.Becomes (NoBolder region) after := by
  refine keeps.mono fun x y was now change here bold => ?_
  have same : now.bold = was.bold := congrArg Style.bold (change here)
  exact same ▸ bold

theorem styled_bold {style : Style} (light : style.bold = false) (cell : Cell)
    (bold : (cell.styled style).bold = true) : cell.bold = true := by
  have either : (cell.bold || style.bold) = true := bold
  rw [light, Bool.or_false] at either
  exact either

theorem draw_symbols_never_bolder (left right y : Nat) (style : Style)
    (light : style.bold = false) (symbols : List (List Char)) (canvas : Canvas) (first : Bool)
    (x : Nat) :
    canvas.Becomes NeverBolder (drawSymbols canvas left right y style first x symbols) := by
  induction symbols generalizing canvas first x with
  | nil => exact .refl never_bolder_composes canvas
  | cons symbol later induction =>
      have placed (column : Nat) (act : Cell → Cell) (acts : ∀ cell, (act cell).bold = cell.bold) :
          canvas.Becomes NeverBolder
            (canvas.change column y fun cell => (act cell).styled style) := by
        refine change_becomes never_bolder_composes _ _ _ _ fun cell _ bold => ?_
        rw [← acts]
        exact styled_bold light _ bold
      have covered (drawn : Canvas) (area : Area) :
          drawn.Becomes NeverBolder (drawn.paint area fun _ => {}) :=
        paint_becomes never_bolder_composes _ _ _ fun _ _ _ _ _ bold => nomatch bold
      unfold drawSymbols
      dsimp only
      split
      · exact .refl never_bolder_composes canvas
      · refine .trans never_bolder_composes ?_ (induction _ _ _)
        refine .trans never_bolder_composes ?_ (covered _ _)
        split
        · exact placed _ _ fun _ => rfl
        · split
          · exact placed _ _ fun _ => rfl
          · split <;> exact placed _ _ fun _ => rfl

theorem draw_spans_never_bolder (style : Style) (light : style.bold = false)
    (spans : List (List Char)) (canvas : Canvas) (area : Area) :
    canvas.Becomes NeverBolder (drawSpans canvas area style spans) := by
  induction spans generalizing canvas area with
  | nil => exact .refl never_bolder_composes canvas
  | cons span later induction =>
      unfold drawSpans
      dsimp only
      split
      · exact .refl never_bolder_composes canvas
      · split
        · exact induction canvas area
        · refine .trans never_bolder_composes ?_ (induction _ _)
          unfold drawSpan
          dsimp only
          split
          · exact .refl never_bolder_composes canvas
          · exact draw_symbols_never_bolder _ _ _ style light _ canvas true _

theorem draw_line_never_bolder (style : Style) (light : style.bold = false) (canvas : Canvas)
    (area : Area) (spans : List (List Char)) :
    canvas.Becomes NeverBolder (drawLine canvas area style spans) := by
  unfold drawLine
  dsimp only
  split
  · exact .refl never_bolder_composes canvas
  · exact draw_spans_never_bolder style light spans canvas _

namespace Border

/-- What a frame encloses lies in its rectangle. -/
theorem inside_holds (border : Border) (area : Area) (x y : Nat)
    (inside : (border.inside area).holds x y = true) : area.holds x y = true := by
  simp only [Area.holds_iff, Border.inside, Area.right, Area.bottom] at inside ⊢
  omega

section

variable {allowed : CellChange} (composes : allowed.Composes)
include composes

theorem draw_if_becomes (present : Bool) (area part : Area) (style : Style) (symbol : Char)
    (canvas : Canvas) (within : ∀ x y, part.holds x y = true → area.holds x y = true)
    (sides : ∀ x y cell symbol, area.holds x y = true →
      allowed x y cell ((cell.showing symbol).styled style)) :
    canvas.Becomes allowed (drawIf present part style symbol canvas) := by
  unfold drawIf
  split
  · exact paint_becomes composes _ _ _ fun x y cell here =>
      sides x y cell [symbol] (within x y here)
  · exact .refl composes canvas

theorem draw_sides_becomes (border : Border) (area : Area) (canvas : Canvas)
    (filled : area.isEmpty = false)
    (sides : ∀ x y cell symbol, area.holds x y = true →
      allowed x y cell ((cell.showing symbol).styled border.sideStyle)) :
    canvas.Becomes allowed (border.drawSides area canvas) := by
  have size : 0 < area.width ∧ 0 < area.height := by
    simp only [Area.isEmpty, Bool.or_eq_false_iff, beq_eq_false_iff_ne] at filled
    omega
  have side (present : Bool) (part : Area) (symbol : Char)
      (within : ∀ x y, part.holds x y = true → area.holds x y = true) (drawn : Canvas)
      (before : canvas.Becomes allowed drawn) :
      canvas.Becomes allowed (drawIf present part border.sideStyle symbol drawn) :=
    before.trans composes
      (draw_if_becomes composes present area part _ symbol drawn within sides)
  unfold drawSides
  dsimp only
  -- the eight parts of the frame, the one drawn last first
  iterate 8
    refine side _ _ _ (fun x y => ?_) _ ?_
    · simp only [Area.holds_iff, Area.right, Area.bottom]
      omega
  exact .refl composes canvas

/-- A frame without a title draws in its rectangle only, and draws its fill and its sides. -/
theorem draw_becomes (border : Border) (area : Area) (canvas : Canvas)
    (untitled : border.title = none)
    (fills : ∀ x y cell, area.holds x y = true → allowed x y cell (cell.styled border.fill))
    (sides : ∀ x y cell symbol, area.holds x y = true →
      allowed x y cell ((cell.showing symbol).styled border.sideStyle)) :
    canvas.Becomes allowed (border.draw area canvas) := by
  have visible (x y : Nat) (here : (area.meet canvas.area).holds x y = true) :
      area.holds x y = true := ((area.meet_holds_iff _ x y).mp here).1
  unfold draw drawTitle
  rw [untitled]
  dsimp only
  split
  · exact .refl composes canvas
  next shown =>
    refine .trans composes (paint_becomes composes _ _ _ fun x y cell here =>
      fills x y cell (visible x y here)) ?_
    exact draw_sides_becomes composes border _ _ (Bool.eq_false_iff.mpr shown)
      fun x y cell symbol here => sides x y cell symbol (visible x y here)

end

/-- A frame whose styles are not bold makes no cell bold, whatever its title is. -/
theorem draw_never_bolder (border : Border) (area : Area) (canvas : Canvas)
    (fill : border.fill.bold = false) (sides : border.sideStyle.bold = false) :
    canvas.Becomes NeverBolder (border.draw area canvas) := by
  have framed := draw_becomes never_bolder_composes { border with title := none } area canvas rfl
    (fun _ _ cell _ _ bold => styled_bold fill cell bold)
    fun _ _ cell symbol _ _ bold => styled_bold sides (cell.showing symbol) bold
  unfold draw at framed ⊢
  dsimp only at framed ⊢
  split
  · exact .refl never_bolder_composes canvas
  next shown =>
    rw [if_neg shown] at framed
    refine .trans never_bolder_composes framed ?_
    show Canvas.Becomes NeverBolder (drawSides _ _ _) _
    unfold drawTitle
    split
    · exact .refl never_bolder_composes _
    · exact draw_line_never_bolder {} rfl _ _ _

end Border

namespace Paragraph

section

variable {allowed : CellChange} (composes : allowed.Composes)
  (letters : ∀ x y cell symbol, allowed x y cell (cell.showing symbol))
include composes letters

theorem draw_symbols_from_becomes (symbols : List (List Char)) (canvas : Canvas) (y x : Nat) :
    canvas.Becomes allowed (drawSymbolsFrom canvas y x symbols) := by
  induction symbols generalizing canvas x with
  | nil => exact .refl composes canvas
  | cons symbol later induction =>
      unfold drawSymbolsFrom
      dsimp only
      split
      · exact induction canvas x
      · exact .trans composes
          (change_becomes composes _ _ _ _ fun cell => letters x y cell symbol)
          (induction _ _)

theorem draw_lines_becomes (paragraph : Paragraph) (area : Area)
    (lines : List (List (List Char))) (canvas : Canvas) (index : Nat) :
    canvas.Becomes allowed (paragraph.drawLines area canvas index lines) := by
  induction lines generalizing canvas index with
  | nil => exact .refl composes canvas
  | cons line later induction =>
      unfold drawLines
      split
      · exact .refl composes canvas
      · exact .trans composes (draw_symbols_from_becomes composes letters line canvas _ _)
          (induction _ _)

variable (paragraph : Paragraph) (area : Area) (canvas : Canvas)
  (untitled : paragraph.border.title = none)
  (styles : ∀ x y cell, area.holds x y = true → allowed x y cell (cell.styled paragraph.style))
  (fills : ∀ x y cell, area.holds x y = true →
    allowed x y cell (cell.styled paragraph.border.fill))
  (sides : ∀ x y cell symbol, area.holds x y = true →
    allowed x y cell ((cell.showing symbol).styled paragraph.border.sideStyle))
include untitled styles fills sides

/-- A paragraph is drawn on cells that have its style already. -/
theorem draw_styled_becomes :
    (canvas.restyle (area.meet canvas.area) paragraph.style).Becomes allowed
      (paragraph.draw area canvas) := by
  have visible (x y : Nat) (here : (area.meet canvas.area).holds x y = true) :
      area.holds x y = true := ((area.meet_holds_iff _ x y).mp here).1
  have framed := Border.draw_becomes composes paragraph.border (area.meet canvas.area)
    (canvas.restyle (area.meet canvas.area) paragraph.style) untitled
    (fun x y cell here => fills x y cell (visible x y here))
    fun x y cell symbol here => sides x y cell symbol (visible x y here)
  unfold draw
  dsimp only
  split
  · exact framed
  · refine .trans composes framed (.trans composes ?_
      (draw_lines_becomes composes letters paragraph _ _ _ _))
    refine paint_becomes composes _ _ _ fun x y cell here => ?_
    exact styles x y cell (visible x y (paragraph.border.inside_holds _ x y here))

theorem draw_becomes : canvas.Becomes allowed (paragraph.draw area canvas) := by
  refine .trans composes (paint_becomes composes _ _ _ fun x y cell here => ?_)
    (draw_styled_becomes composes letters paragraph area canvas untitled styles fills sides)
  exact styles x y cell ((area.meet_holds_iff _ x y).mp here).1

end

/-- A paragraph without a title changes the look of cells in its rectangle only. -/
theorem draw_keeps_look (paragraph : Paragraph) (area : Area) (canvas : Canvas)
    (untitled : paragraph.border.title = none) :
    canvas.Becomes (KeepsLook fun x y => ¬area.holds x y = true) (paragraph.draw area canvas) :=
  draw_becomes (keeps_look_composes _) (fun _ _ _ _ _ => rfl) paragraph area canvas untitled
    (fun _ _ _ here beside => absurd here beside) (fun _ _ _ here beside => absurd here beside)
    fun _ _ _ _ here beside => absurd here beside

end Paragraph

namespace Choices

def Beside (area : Area) (x _ : Nat) : Prop := ¬(area.x ≤ x ∧ x < area.x + area.width)

theorem restyle_beside (area part : Area) (style : Style) (canvas : Canvas)
    (left : part.x = area.x) (width : part.width = area.width) :
    canvas.Becomes (NoBolder (Beside area)) (canvas.restyle part style) := by
  refine paint_becomes (no_bolder_composes _) _ _ _ fun x y cell here beside => ?_
  rw [Area.holds_iff, left, width] at here
  exact absurd ⟨here.1, here.2.1⟩ beside

theorem draw_item_lines_never_bolder (area : Area) (lines : List (List Char)) (canvas : Canvas)
    (index : Nat) : canvas.Becomes NeverBolder (drawItemLines canvas area index lines) := by
  induction lines generalizing canvas index with
  | nil => exact .refl never_bolder_composes canvas
  | cons line later induction =>
      exact .trans never_bolder_composes (draw_line_never_bolder {} rfl canvas _ _)
        (induction _ _)

theorem draw_marks_never_bolder (choices : Choices) (x y : Nat) (chosen : Bool) (count : Nat)
    (canvas : Canvas) (index : Nat) :
    canvas.Becomes NeverBolder (choices.drawMarks canvas x y chosen index count) := by
  induction count generalizing canvas index with
  | zero => exact .refl never_bolder_composes canvas
  | succ count induction =>
      exact .trans never_bolder_composes (draw_line_never_bolder {} rfl canvas _ _)
        (induction _ _)

theorem draw_item_beside (choices : Choices) (canvas : Canvas) (area : Area) (y : Nat)
    (selected : Option Nat) (index : Nat) (lines : List (List Char)) :
    canvas.Becomes (NoBolder (Beside area))
      (choices.drawItem canvas area y selected index lines) := by
  have composes := no_bolder_composes (Beside area)
  have marked (drawn : Canvas) (left top : Nat) (chosen : Bool) (count : Nat) :
      drawn.Becomes (NoBolder (Beside area)) (choices.drawMarks drawn left top chosen 0 count) :=
    NeverBolder.within (choices.draw_marks_never_bolder left top chosen count drawn 0) _
  have highlighted (drawn : Canvas) (chosen : Bool) (row : Area) (left : row.x = area.x)
      (width : row.width = area.width) :
      drawn.Becomes (NoBolder (Beside area))
        (if chosen then drawn.restyle row choices.highlight else drawn) := by
    split
    · exact restyle_beside area row _ drawn left width
    · exact .refl composes drawn
  have lined (drawn : Canvas) (row : Area) :
      drawn.Becomes (NoBolder (Beside area)) (drawItemLines drawn row 0 lines) :=
    NeverBolder.within (draw_item_lines_never_bolder row lines drawn 0) _
  unfold drawItem
  dsimp only
  have item (inside : Area) := Becomes.trans composes
    (restyle_beside area ⟨area.x, y, area.width, lines.length⟩ choices.style canvas rfl rfl)
    (Becomes.trans composes (lined _ inside)
      (highlighted _ (selected == some index) ⟨area.x, y, area.width, lines.length⟩ rfl rfl))
  split
  · exact .trans composes (item _) (marked _ _ _ _ _)
  · exact item _

theorem draw_items_beside (choices : Choices) (area : Area) (selected : Option Nat)
    (items : List (Nat × List (List Char))) (canvas : Canvas) (y : Nat) :
    canvas.Becomes (NoBolder (Beside area)) (choices.drawItems area selected canvas y items) := by
  induction items generalizing canvas y with
  | nil => exact .refl (no_bolder_composes _) canvas
  | cons item later induction =>
      obtain ⟨index, lines⟩ := item
      exact .trans (no_bolder_composes _)
        (choices.draw_item_beside canvas area y selected index lines) (induction _ _)

/-- A list makes cells bold in its own columns only. -/
theorem draw_beside (choices : Choices) (area : Area) (state : ChoiceState) (canvas : Canvas) :
    canvas.Becomes (NoBolder (Beside area)) (choices.draw area state canvas) := by
  have styled := restyle_beside area area choices.style canvas rfl rfl
  unfold draw
  dsimp only
  split
  · exact styled
  · exact .trans (no_bolder_composes _) styled (choices.draw_items_beside area _ _ _ _)

end Choices

end CounterForms
