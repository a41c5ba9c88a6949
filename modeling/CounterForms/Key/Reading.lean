import CounterForms.Key.Chord
import CounterForms.Text.Basic
import CounterForms.Text.LowerCase
import CounterForms.Text.Pieces

/-!
Reading a chord from a configuration. A single character stands for its key. In angle brackets stand
a key name, or modifiers and then a name or a character, with hyphens between them. The hyphen key
itself is the second of two hyphens before the closing bracket.
-/

namespace CounterForms

inductive ChordFault
  | empty
  | form (text : String)
  | modifier (text : String)
  | key (text : String)
deriving DecidableEq

def ChordFault.message : ChordFault → String
  | .empty => "Empty key binding"
  | .form text => "Invalid key binding format: '" ++ text ++ "'"
  | .modifier text => "Unknown modifier: '" ++ text ++ "' (use C, S, or A)"
  | .key text => "Unknown key: '" ++ text ++ "'"

def Modifiers.named? (name : String) : Option Modifiers :=
  match Text.lowerCase name with
  | "c" | "ctrl" => some { control := true }
  | "s" | "shift" => some { shift := true }
  | "a" | "alt" => some { alt := true }
  | _ => none

/-- The number of a function key: decimal digits, which a plus sign and zeros may precede. -/
def functionNumber? (digits : List Char) : Option Nat :=
  let unsigned := match digits with
    | '+' :: rest => rest
    | _ => digits
  let number := Text.digitsValue 10 unsigned
  if !unsigned.isEmpty && unsigned.all Text.isDigit && 1 ≤ number && number ≤ 12 then some number
  else none

def KeyCode.named? (name : String) : Option KeyCode :=
  let lowered := Text.lowerCase name
  match namedKeys.find? fun key => key.names.contains lowered with
  | some key => some key.code
  | none =>
      match lowered.toList with
      | 'f' :: digits => (functionNumber? digits).map .function
      | _ => none

def KeyCode.ofName (name : String) : Except ChordFault KeyCode :=
  match named? name with
  | some code => pure code
  | none => throw (.key name)

/-- The chord of a single character with modifiers. A capital means its small letter with Shift. -/
def Chord.ofCharacter (character : Char) (modifiers : Modifiers) : Chord :=
  Chord.lowered ⟨.character character, modifiers⟩

/-- Collects modifiers by name. The first unknown one is reported. -/
def Modifiers.ofNames : List (List Char) → Except ChordFault Modifiers
  | [] => pure {}
  | name :: later =>
      match named? (String.ofList name) with
      | none => throw (.modifier (String.ofList name))
      | some first => do
          let others ← ofNames later
          pure (first.union others)

/-- The names of the modifiers and the text of the key, from between the brackets. -/
def bracketParts (inner : List Char) : List (List Char) × List Char :=
  let parts := Text.pieces '-' inner
  if ['-', '-'].isSuffixOf inner then (parts.dropLast.dropLast, ['-'])
  else (parts.dropLast, parts.getLastD [])

/-- Reads what stands between angle brackets. A lone character needs a modifier. -/
def Chord.ofBracketed (inner : List Char) : Except ChordFault Chord := do
  let (names, key) := bracketParts inner
  let modifiers ← Modifiers.ofNames names
  match key with
  | [character] =>
      if modifiers = {} then throw (.key (String.ofList key))
      else pure (ofCharacter character modifiers)
  | _ => do
      let code ← KeyCode.ofName (String.ofList key)
      pure ⟨code, modifiers⟩

def bracketed? (characters : List Char) : Option (List Char) :=
  match characters with
  | '<' :: rest =>
      if 1 < rest.length && rest.getLast? == some '>' then some rest.dropLast else none
  | _ => none

def Chord.ofText (text : String) : Except ChordFault Chord :=
  let characters := Text.trimBlanks text.toList
  if characters.isEmpty then throw .empty
  else
    match bracketed? characters with
    | some inner => ofBracketed inner
    | none =>
        match characters with
        | [character] => pure (ofCharacter character {})
        | _ => throw (.form (String.ofList characters))

end CounterForms
