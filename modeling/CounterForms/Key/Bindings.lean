import CounterForms.Key.Reading
import CounterForms.Key.Report

/-!
The actions of the screen and the chords that call them. Every action has exactly one chord and no
two actions share one, so a pressed chord calls at most one action.
-/

namespace CounterForms

inductive Action
  | back
  | selectPrevious
  | selectNext
  | increase
  | decrease
  | clear
  | save
deriving DecidableEq, Inhabited

namespace Action

/-- All actions, in the order in which they are declared, read and tried. -/
def all : List Action :=
  [.back, .selectPrevious, .selectNext, .increase, .decrease, .clear, .save]

def name : Action → String
  | .back => "back"
  | .selectPrevious => "select_previous"
  | .selectNext => "select_next"
  | .increase => "increase"
  | .decrease => "decrease"
  | .clear => "clear"
  | .save => "save"

theorem mem_all (action : Action) : action ∈ all := by cases action <;> simp [all]

end Action

abbrev BindingTexts := Action → String

namespace BindingTexts

/-- The chords that hold where a configuration says nothing. -/
def standard : BindingTexts
  | .back => "<esc>"
  | .selectPrevious => "<up>"
  | .selectNext => "<down>"
  | .increase => "<right>"
  | .decrease => "<left>"
  | .clear => "<backspace>"
  | .save => "<C-s>"

def replace (texts : BindingTexts) (action : Action) (text : String) : BindingTexts :=
  fun other => if other = action then text else texts other

end BindingTexts

abbrev Bindings := Action → Chord

structure SharedChord where
  chord : Chord
  actions : List Action
deriving DecidableEq

inductive BindingFault
  | chord (action : Action) (text : String) (fault : ChordFault)
  | shared (conflicts : List SharedChord)
deriving DecidableEq

def SharedChord.line (shared : SharedChord) : String :=
  "'" ++ shared.chord.label ++ "' is bound to: " ++
    ", ".intercalate (shared.actions.map Action.name)

/-- One line per shared chord, in the order of the lines. -/
def sharedMessage (conflicts : List SharedChord) : String :=
  let lines := (conflicts.map SharedChord.line).mergeSort fun one other => !decide (other < one)
  "Duplicate key bindings detected:\n  " ++ "\n  ".intercalate lines

namespace Bindings

def actionsOf (bindings : Bindings) (chord : Chord) : List Action :=
  Action.all.filter fun action => bindings action == chord

/-- The chords that two or more actions share, by their first action. -/
def conflicts (bindings : Bindings) : List SharedChord :=
  Action.all.filterMap fun action =>
    match bindings.actionsOf (bindings action) with
    | first :: second :: others =>
        if first = action then some ⟨bindings action, first :: second :: others⟩ else none
    | _ => none

def readChord (texts : BindingTexts) (action : Action) : Except BindingFault Chord :=
  (Chord.ofText (texts action)).mapError (BindingFault.chord action (texts action))

def readChords (texts : BindingTexts) : Except BindingFault Bindings := do
  let back ← readChord texts .back
  let selectPrevious ← readChord texts .selectPrevious
  let selectNext ← readChord texts .selectNext
  let increase ← readChord texts .increase
  let decrease ← readChord texts .decrease
  let clear ← readChord texts .clear
  let save ← readChord texts .save
  pure fun
    | .back => back
    | .selectPrevious => selectPrevious
    | .selectNext => selectNext
    | .increase => increase
    | .decrease => decrease
    | .clear => clear
    | .save => save

def ofTexts (texts : BindingTexts) : Except BindingFault Bindings := do
  let bindings ← readChords texts
  match bindings.conflicts with
  | [] => pure bindings
  | conflicts => throw (.shared conflicts)

def action? (bindings : Bindings) (report : ReportedChord) : Option Action :=
  Action.all.find? fun action => (bindings action).answersTo report

end Bindings

end CounterForms
