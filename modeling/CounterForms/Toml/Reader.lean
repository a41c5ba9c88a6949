import CounterForms.Toml.Scalar
import CounterForms.Toml.Text
import CounterForms.Toml.Tree

/-!
Reading TOML documents line by line. A document that breaks the grammar, or gives a key twice, has
no value; what exactly is wrong with it is not told.
-/

namespace CounterForms.Toml

/-- How many arrays and inline tables may lie in each other. -/
def greatestDepth : Nat := 80

def skipSpaces (input : List Char) : List Char := input.dropWhile isSpace

def skipComment? (input : List Char) : Option (List Char) :=
  match input with
  | '#' :: rest =>
      let behind := rest.dropWhile isPlain
      if behind.isEmpty || (lineBreak? behind).isSome then some behind else none
  | _ => some input

def skipLines? : Nat → List Char → Option (List Char)
  | 0, _ => none
  | budget + 1, input => do
      let behind ← skipComment? (skipSpaces input)
      match lineBreak? behind with
      | some rest => skipLines? budget rest
      | none => some behind

def skipAllLines? (input : List Char) : Option (List Char) := skipLines? (input.length + 1) input

def endLine? (input : List Char) : Option (List Char) := do
  let behind ← skipComment? (skipSpaces input)
  if behind.isEmpty then some [] else lineBreak? behind

def isBareKeyCharacter (character : Char) : Bool :=
  character.isAlphanum || character == '_' || character == '-'

def readKeyPart (input : List Char) : Option (String × List Char) :=
  match input with
  | '"' :: _ | '\'' :: _ => readShortString input
  | _ =>
      match input.span isBareKeyCharacter with
      | ([], _) => none
      | (bare, rest) => some (String.ofList bare, rest)

/-- A key and its parts. Spaces may stand around the dots. -/
def readKey : Nat → List Char → Option (List String × List Char)
  | 0, _ => none
  | budget + 1, input => do
      let (part, behind) ← readKeyPart (skipSpaces input)
      match skipSpaces behind with
      | '.' :: rest => do
          let (others, final) ← readKey budget rest
          some (part :: others, final)
      | rest => some ([part], rest)

def readSeparator (close : Char) (input : List Char) : Option (Bool × List Char) := do
  match ← skipAllLines? input with
  | [] => none
  | character :: rest =>
      if character = close then some (true, rest)
      else if character = ',' then
        match ← skipAllLines? rest with
        | [] => none
        | next :: behind =>
            if next = close then some (true, behind) else some (false, next :: behind)
      else none

def readOpening (close : Char) (input : List Char) : Option (Bool × List Char) := do
  match ← skipAllLines? input with
  | [] => none
  | character :: rest =>
      if character = close then some (true, rest) else some (false, character :: rest)

mutual

/-- A value. The budget bounds the steps, and `depth` the containers that may still be opened. -/
def readValue : Nat → Nat → List Char → Option (Value × List Char)
  | 0, _, _ => none
  | _ + 1, _, [] => none
  | budget + 1, depth, character :: rest =>
      if character = '"' || character = '\'' then do
        let (text, behind) ← readString (character :: rest)
        some (.string text, behind)
      else if character = '[' then
        match depth with
        | 0 => none
        | inner + 1 => do
            let (closed, first) ← readOpening ']' rest
            if closed then some (.array [], first)
            else do
              let (elements, behind) ← readElements budget inner first
              some (.array elements, behind)
      else if character = '\x7b' then
        match depth with
        | 0 => none
        | inner + 1 => do
            let (closed, first) ← readOpening '\x7d' rest
            if closed then some (.table [], first)
            else do
              let (statements, behind) ← readAssignments budget inner first
              let entries ← assemble statements
              some (.table entries, behind)
      else readScalar (character :: rest)

def readElements : Nat → Nat → List Char → Option (List Value × List Char)
  | 0, _, _ => none
  | budget + 1, depth, input => do
      let (value, behind) ← readValue budget depth input
      let (closed, rest) ← readSeparator ']' behind
      if closed then some ([value], rest)
      else do
        let (others, final) ← readElements budget depth rest
        some (value :: others, final)

def readAssignments : Nat → Nat → List Char → Option (List Statement × List Char)
  | 0, _, _ => none
  | budget + 1, depth, input => do
      let (assignment, behind) ← readAssignment budget depth input
      let (closed, rest) ← readSeparator '\x7d' behind
      if closed then some ([assignment], rest)
      else do
        let (others, final) ← readAssignments budget depth rest
        some (assignment :: others, final)

def readAssignment : Nat → Nat → List Char → Option (Statement × List Char)
  | 0, _, _ => none
  | budget + 1, depth, input => do
      let (path, behind) ← readKey (input.length + 1) input
      match behind with
      | '=' :: rest => do
          let (value, final) ← readValue budget depth (skipSpaces rest)
          some (.assign path value, final)
      | _ => none

end

def readHeader (input : List Char) : Option (Statement × List Char) := do
  let (path, behind) ← readKey (input.length + 1) input
  match behind with
  | ']' :: rest => some (.header path, rest)
  | _ => none

def readElementHeader (input : List Char) : Option (Statement × List Char) := do
  let (path, behind) ← readKey (input.length + 1) input
  match behind with
  | ']' :: ']' :: rest => some (.elementHeader path, rest)
  | _ => none

def readStatement (input : List Char) : Option (Statement × List Char) :=
  match input with
  | '[' :: '[' :: rest => readElementHeader rest
  | '[' :: rest => readHeader rest
  | _ => readAssignment (4 * input.length + 4) greatestDepth input

def readStatements : Nat → List Char → Option (List Statement)
  | 0, _ => none
  | budget + 1, input => do
      match ← skipAllLines? input with
      | [] => some []
      | start => do
          let (statement, behind) ← readStatement start
          let rest ← endLine? behind
          let others ← readStatements budget rest
          some (statement :: others)

def dropMark (input : List Char) : List Char :=
  match input with
  | '\uFEFF' :: rest => rest
  | _ => input

def readDocument (text : String) : Option (List (String × Value)) := do
  let input := dropMark text.toList
  let statements ← readStatements (input.length + 1) input
  assemble statements

end CounterForms.Toml
