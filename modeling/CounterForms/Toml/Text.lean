import CounterForms.Text.Basic

/-!
Strings of TOML: basic ones with escapes and literal ones without, each on one line or over several
lines between three quotes. The first line break behind three quotes does not count, a backslash at
the end of a line joins it to the next text, and a line break is a single character.
-/

namespace CounterForms.Toml

def isPlain (character : Char) : Bool :=
  character = '\t' || (0x20 ≤ character.toNat && character.toNat ≠ 0x7F)

def scalarOfCode? (code : Nat) : Option Char :=
  if code.isValidChar then some (Char.ofNat code) else none

def readNumbered (count : Nat) (input : List Char) : Option (Char × List Char) := do
  let digits := input.take count
  if digits.length = count && digits.all Text.isHexDigit then
    let character ← scalarOfCode? (Text.digitsValue 16 digits)
    some (character, input.drop count)
  else none

def readEscape : List Char → Option (Char × List Char)
  | 'b' :: rest => some ('\x08', rest)
  | 't' :: rest => some ('\t', rest)
  | 'n' :: rest => some ('\n', rest)
  | 'f' :: rest => some ('\x0c', rest)
  | 'r' :: rest => some ('\r', rest)
  | 'e' :: rest => some ('\x1b', rest)
  | '"' :: rest => some ('"', rest)
  | '\\' :: rest => some ('\\', rest)
  | 'x' :: rest => readNumbered 2 rest
  | 'u' :: rest => readNumbered 4 rest
  | 'U' :: rest => readNumbered 8 rest
  | _ => none

def prepend (character : Char) : Option (List Char × List Char) → Option (List Char × List Char) :=
  Option.map fun (characters, rest) => (character :: characters, rest)

def readLiteral : List Char → Option (List Char × List Char)
  | [] => none
  | character :: rest =>
      if character = '\'' then some ([], rest)
      else if isPlain character then prepend character (readLiteral rest)
      else none

def readBasic : Nat → List Char → Option (List Char × List Char)
  | 0, _ => none
  | _ + 1, [] => none
  | budget + 1, character :: rest =>
      if character = '"' then some ([], rest)
      else if character = '\\' then do
        let (meant, behind) ← readEscape rest
        prepend meant (readBasic budget behind)
      else if isPlain character then prepend character (readBasic budget rest)
      else none

def lineBreak? : List Char → Option (List Char)
  | '\n' :: rest => some rest
  | '\r' :: '\n' :: rest => some rest
  | _ => none

def dropLineBreak (input : List Char) : List Char := (lineBreak? input).getD input

/-- The end of a string over several lines: three quotes, before which the string itself may end in
one or two more. -/
def closing? (quote : Char) (input : List Char) : Option (List Char × List Char) :=
  let quotes := input.takeWhile (· == quote)
  if 3 ≤ quotes.length then
    let count := min 5 quotes.length
    some (List.replicate (count - 3) quote, input.drop count)
  else none

def readLongLiteral : Nat → List Char → Option (List Char × List Char)
  | 0, _ => none
  | budget + 1, input =>
      match closing? '\'' input, lineBreak? input, input with
      | some ending, _, _ => some ending
      | none, some rest, _ => prepend '\n' (readLongLiteral budget rest)
      | none, none, character :: rest =>
          if isPlain character then prepend character (readLongLiteral budget rest) else none
      | none, none, [] => none

def isSpace (character : Char) : Bool := character = ' ' || character = '\t'

/-- The text behind a backslash that ends its line: blanks and line breaks do not count. -/
def joinedLine? (input : List Char) : Option (List Char) := do
  let rest ← lineBreak? (input.dropWhile isSpace)
  some (skip (rest.length + 1) rest)
where
  skip : Nat → List Char → List Char
    | 0, input => input
    | budget + 1, input =>
        match lineBreak? (input.dropWhile isSpace) with
        | some rest => skip budget rest
        | none => input.dropWhile isSpace

def readLongBasic : Nat → List Char → Option (List Char × List Char)
  | 0, _ => none
  | budget + 1, input =>
      match closing? '"' input, lineBreak? input, input with
      | some ending, _, _ => some ending
      | none, some rest, _ => prepend '\n' (readLongBasic budget rest)
      | none, none, '\\' :: rest =>
          match joinedLine? rest with
          | some behind => readLongBasic budget behind
          | none => do
              let (meant, behind) ← readEscape rest
              prepend meant (readLongBasic budget behind)
      | none, none, character :: rest =>
          if isPlain character then prepend character (readLongBasic budget rest) else none
      | none, none, [] => none

def readShortString (input : List Char) : Option (String × List Char) :=
  let content := match input with
    | '"' :: rest => readBasic (rest.length + 1) rest
    | '\'' :: rest => readLiteral rest
    | _ => none
  content.map fun (characters, rest) => (String.ofList characters, rest)

def readString (input : List Char) : Option (String × List Char) :=
  match input with
  | '"' :: '"' :: '"' :: rest =>
      (readLongBasic (rest.length + 1) (dropLineBreak rest)).map fun (characters, behind) =>
        (String.ofList characters, behind)
  | '\'' :: '\'' :: '\'' :: rest =>
      (readLongLiteral (rest.length + 1) (dropLineBreak rest)).map fun (characters, behind) =>
        (String.ofList characters, behind)
  | _ => readShortString input

end CounterForms.Toml
