import CounterForms.Decimal.Binary64
import CounterForms.Text.Basic

/-!
JSON values and the strings among them. A number is kept as a whole number where it is written
without a point or exponent and fits 64 bits, and as a binary floating number otherwise. An object
keeps its members as they stand in the text, so a key may come more than once. Only the quote, the
backslash and control characters of a string are escaped in writing. Reading takes every escape of
the grammar; a character beyond the basic plane may be given as two escapes of four digits each, and
one half of such a pair alone is refused.
-/

namespace CounterForms

inductive Json
  | null
  | bool (value : Bool)
  | integer (value : Int)
  | number (value : Binary64)
  | string (value : String)
  | array (elements : List Json)
  | object (members : List (String × Json))
deriving Inhabited

namespace Json

inductive Fault
  /-- The text breaks the grammar. -/
  | malformed
  /-- The text ends where more is needed. -/
  | cutShort
  /-- The text holds some other value where an object is asked for. -/
  | notAnObject
deriving DecidableEq

def escaped (character : Char) : List Char :=
  match character with
  | '"' => ['\\', '"']
  | '\\' => ['\\', '\\']
  | '\x08' => ['\\', 'b']
  | '\t' => ['\\', 't']
  | '\n' => ['\\', 'n']
  | '\x0c' => ['\\', 'f']
  | '\r' => ['\\', 'r']
  | _ =>
      if character.toNat < 0x20 then
        ['\\', 'u', '0', '0', Nat.digitChar (character.toNat / 16),
          Nat.digitChar (character.toNat % 16)]
      else [character]

def quote (text : String) : List Char := '"' :: (text.toList.flatMap escaped ++ ['"'])

def simpleEscape? : Char → Option Char
  | '"' => some '"'
  | '\\' => some '\\'
  | '/' => some '/'
  | 'b' => some '\x08'
  | 'f' => some '\x0c'
  | 'n' => some '\n'
  | 'r' => some '\r'
  | 't' => some '\t'
  | _ => none

def byteLength : List Char → Nat
  | [] => 0
  | character :: later => character.utf8Size + byteLength later

/-- Four hexadecimal digits. The text ends too early if fewer than four bytes are left. -/
def readFourDigits : List Char → Except Fault (Nat × List Char)
  | d₁ :: d₂ :: d₃ :: d₄ :: rest =>
      if [d₁, d₂, d₃, d₄].all Text.isHexDigit then
        pure (Text.digitsValue 16 [d₁, d₂, d₃, d₄], rest)
      else throw .malformed
  | input => throw (if byteLength input < 4 then .cutShort else .malformed)

def isHighHalf (code : Nat) : Bool := 0xD800 ≤ code && code ≤ 0xDBFF

def isLowHalf (code : Nat) : Bool := 0xDC00 ≤ code && code ≤ 0xDFFF

def readLowHalf (high : Nat) : List Char → Except Fault (Char × List Char)
  | [] => throw .cutShort
  | ['\\'] => throw .cutShort
  | '\\' :: 'u' :: rest => do
      let (low, behind) ← readFourDigits rest
      if isLowHalf low then
        pure (Char.ofNat (0x10000 + (high - 0xD800) * 0x400 + (low - 0xDC00)), behind)
      else throw .malformed
  | _ => throw .malformed

def readEscape : List Char → Except Fault (Char × List Char)
  | [] => throw .cutShort
  | 'u' :: rest => do
      let (code, behind) ← readFourDigits rest
      if isLowHalf code then throw .malformed
      else if isHighHalf code then readLowHalf code behind
      else pure (Char.ofNat code, behind)
  | letter :: rest =>
      match simpleEscape? letter with
      | some character => pure (character, rest)
      | none => throw .malformed

/-- The characters of a string up to its closing quote. The budget bounds their number. -/
def readCharacters : Nat → List Char → Except Fault (List Char × List Char)
  | 0, _ => throw .cutShort
  | _ + 1, [] => throw .cutShort
  | budget + 1, character :: rest =>
      if character = '"' then pure ([], rest)
      else if character = '\\' then do
        let (meant, behind) ← readEscape rest
        let (others, final) ← readCharacters budget behind
        pure (meant :: others, final)
      else if character.toNat < 0x20 then throw .malformed
      else do
        let (others, final) ← readCharacters budget rest
        pure (character :: others, final)

def readString (input : List Char) : Except Fault (String × List Char) := do
  let (characters, rest) ← readCharacters (input.length + 1) input
  pure (String.ofList characters, rest)

end Json

end CounterForms
