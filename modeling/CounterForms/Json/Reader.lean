import CounterForms.Json.Number
import CounterForms.Json.Value

/-!
Reading JSON objects. Containers may lie in each other up to a fixed depth. Of the faults the first
in the text is reported, told apart by whether the text breaks the grammar or ends too early.
-/

namespace CounterForms.Json

/-- How many containers may lie in each other. -/
def greatestDepth : Nat := 127

def isSpace (character : Char) : Bool :=
  character = ' ' || character = '\n' || character = '\t' || character = '\r'

def skipSpaces (input : List Char) : List Char := input.dropWhile isSpace

def readWord : List Char → Json → List Char → Except Fault (Json × List Char)
  | [], value, input => pure (value, input)
  | _ :: _, _, [] => throw .cutShort
  | letter :: letters, value, character :: rest =>
      if letter = character then readWord letters value rest else throw .malformed

def readColon (input : List Char) : Except Fault (List Char) :=
  match skipSpaces input with
  | [] => throw .cutShort
  | ':' :: rest => pure rest
  | _ => throw .malformed

/-- Values that hold no other value. -/
def readLeaf (first : Char) (rest : List Char) : Except Fault (Json × List Char) :=
  match first with
  | 'n' => readWord ['u', 'l', 'l'] .null rest
  | 't' => readWord ['r', 'u', 'e'] (.bool true) rest
  | 'f' => readWord ['a', 'l', 's', 'e'] (.bool false) rest
  | '"' => do
      let (text, behind) ← readString rest
      pure (.string text, behind)
  | '-' => readUnsigned true rest
  | _ => if Text.isDigit first then readUnsigned false (first :: rest) else throw .malformed

inductive Next
  | closed (rest : List Char)
  | element (rest : List Char)

def nextElement (first : Bool) (input : List Char) : Except Fault Next :=
  match skipSpaces input with
  | [] => throw .cutShort
  | ']' :: rest => pure (.closed rest)
  | character :: rest =>
      if first then pure (.element (character :: rest))
      else if character = ',' then
        match skipSpaces rest with
        | [] => throw .cutShort
        | ']' :: _ => throw .malformed
        | more => pure (.element more)
      else throw .malformed

def nextMember (first : Bool) (input : List Char) : Except Fault Next :=
  match skipSpaces input with
  | [] => throw .cutShort
  | '\x7d' :: rest => pure (.closed rest)
  | character :: rest =>
      if first then
        if character = '"' then pure (.element rest) else throw .malformed
      else if character = ',' then
        match skipSpaces rest with
        | [] => throw .cutShort
        | '"' :: more => pure (.element more)
        | _ => throw .malformed
      else throw .malformed

mutual

/-- A value. The budget bounds the steps, and `depth` the containers that may still be opened. -/
def readValue : Nat → Nat → List Char → Except Fault (Json × List Char)
  | 0, _, _ => throw .malformed
  | budget + 1, depth, input =>
      match skipSpaces input with
      | [] => throw .cutShort
      | first :: rest =>
          if first = '[' then
            match depth with
            | 0 => throw .malformed
            | inner + 1 => do
                let (elements, behind) ← readElements budget inner true rest
                pure (.array elements, behind)
          else if first = '\x7b' then
            match depth with
            | 0 => throw .malformed
            | inner + 1 => do
                let (members, behind) ← readMembers budget inner true rest
                pure (.object members, behind)
          else readLeaf first rest

def readElements : Nat → Nat → Bool → List Char → Except Fault (List Json × List Char)
  | 0, _, _, _ => throw .malformed
  | budget + 1, depth, first, input => do
      match ← nextElement first input with
      | .closed rest => pure ([], rest)
      | .element rest => do
          let (value, behind) ← readValue budget depth rest
          let (others, final) ← readElements budget depth false behind
          pure (value :: others, final)

def readMembers :
    Nat → Nat → Bool → List Char → Except Fault (List (String × Json) × List Char)
  | 0, _, _, _ => throw .malformed
  | budget + 1, depth, first, input => do
      match ← nextMember first input with
      | .closed rest => pure ([], rest)
      | .element rest => do
          let (key, behindKey) ← readString rest
          let behindColon ← readColon behindKey
          let (value, behind) ← readValue budget depth behindColon
          let (others, final) ← readMembers budget depth false behind
          pure ((key, value) :: others, final)

end

/-- Reads a text that is one object: its members as they stand. A value of another kind that starts
the text is read first and refused only then. -/
def readObject (text : String) : Except Fault (List (String × Json)) := do
  let input := text.toList
  match skipSpaces input with
  | [] => throw .cutShort
  | '\x7b' :: rest => do
      let (members, behind) ← readMembers (2 * input.length + 2) (greatestDepth - 1) true rest
      if skipSpaces behind = [] then pure members else throw .malformed
  | '[' :: _ => throw .notAnObject
  | first :: rest => do
      let _ ← readLeaf first rest
      throw .notAnObject

end CounterForms.Json
