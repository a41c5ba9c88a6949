import CounterForms.Key.Chord
import CounterForms.Text.LowerCase

/-!
Keys as a terminal reports them. Besides the keys and modifiers that a chord has, a terminal may
report others: keys like Caps Lock or Pause, and further modifiers. A bound chord answers to no
report that has any of them. A typed character is reported with Shift if it is a capital.
-/

namespace CounterForms

/-- A reported key: one that a chord may have, or any other by its name. -/
inductive ReportedCode
  | known (code : KeyCode)
  | other (name : String)
deriving DecidableEq, Inhabited

def ReportedCode.character (typed : Char) : ReportedCode := .known (.character typed)

structure ReportedModifiers extends Modifiers where
  superKey : Bool := false
  hyperKey : Bool := false
  metaKey : Bool := false
deriving DecidableEq, Inhabited

structure ReportedChord where
  code : ReportedCode
  modifiers : ReportedModifiers := {}
deriving DecidableEq, Inhabited

/-- The report of a typed character: with Shift if it is upper case, and else with nothing held. -/
def ReportedChord.typed (character : Char) : ReportedChord :=
  ⟨.character character, { shift := Text.isUpperCase character }⟩

def Chord.reported (chord : Chord) : ReportedChord := ⟨.known chord.code, { chord.modifiers with }⟩

instance : Coe Chord ReportedChord := ⟨Chord.reported⟩

/-- Takes a reported ASCII capital as its small letter with Shift held, and all else as it is. -/
def ReportedChord.lowered (report : ReportedChord) : ReportedChord :=
  match report.code with
  | .known (.character character) =>
      if character.isUpper then
        ⟨.character character.toLower, { report.modifiers with shift := true }⟩
      else report
  | _ => report

/-- Whether a bound chord answers to what the terminal reports. -/
def Chord.answersTo (bound : Chord) (report : ReportedChord) : Bool :=
  bound.reported == report.lowered

end CounterForms
