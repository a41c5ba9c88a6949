import CounterForms.Text.Basic

/-!
Keys with modifiers. A chord is both what a terminal reports when keys are pressed together and what
an action is bound to.
-/

namespace CounterForms

inductive KeyCode
  | character (character : Char)
  | enter
  | escape
  | tab
  | backTab
  | backspace
  | delete
  | insert
  | up
  | down
  | left
  | right
  | home
  | last
  | pageUp
  | pageDown
  | function (number : Nat)
deriving DecidableEq, Inhabited

structure Modifiers where
  control : Bool := false
  shift : Bool := false
  alt : Bool := false
deriving DecidableEq, Inhabited

def Modifiers.union (one other : Modifiers) : Modifiers :=
  ⟨one.control || other.control, one.shift || other.shift, one.alt || other.alt⟩

structure Chord where
  code : KeyCode
  modifiers : Modifiers := {}
deriving DecidableEq, Inhabited

structure NamedKey where
  names : List String
  code : KeyCode
  label : String

def namedKeys : List NamedKey :=
  [
    ⟨["space"], .character ' ', "space"⟩,
    ⟨["enter", "return"], .enter, "enter"⟩,
    ⟨["esc", "escape"], .escape, "esc"⟩,
    ⟨["tab"], .tab, "tab"⟩,
    ⟨["backspace", "bs"], .backspace, "backspace"⟩,
    ⟨["delete", "del"], .delete, "del"⟩,
    ⟨["up"], .up, "↑"⟩,
    ⟨["down"], .down, "↓"⟩,
    ⟨["left"], .left, "←"⟩,
    ⟨["right"], .right, "→"⟩,
    ⟨["home"], .home, "home"⟩,
    ⟨["end"], .last, "end"⟩,
    ⟨["pageup", "pgup"], .pageUp, "pgup"⟩,
    ⟨["pagedown", "pgdn"], .pageDown, "pgdn"⟩
  ]

def KeyCode.label (code : KeyCode) : String :=
  match namedKeys.find? fun key => key.code == code with
  | some key => key.label
  | none =>
      match code with
      | .character typed => String.singleton typed
      | .function number => "f" ++ Text.natText number
      | .insert => "Insert"
      | .backTab => "BackTab"
      | _ => ""

def Chord.label (chord : Chord) : String :=
  (if chord.modifiers.control then "C-" else "") ++
    (if chord.modifiers.shift then "S-" else "") ++
    (if chord.modifiers.alt then "A-" else "") ++ chord.code.label

/-- Gives an ASCII capital as its small letter with Shift held, and leaves all else as it is. -/
def Chord.lowered (chord : Chord) : Chord :=
  match chord.code with
  | .character character =>
      if character.isUpper then
        ⟨.character character.toLower, { chord.modifiers with shift := true }⟩
      else chord
  | _ => chord

end CounterForms
