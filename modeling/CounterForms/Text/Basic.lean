/-!
Characters and the plainest texts: sets of characters, blanks, and the decimal numerals of whole
numbers. A set is given by ranges of code points in increasing order and apart from each other, so a
search may stop at the first range that starts behind the character. Blank is what Unicode calls
White_Space: besides the spaces of a keyboard also the no-break space and the spaces of typography.
A numeral has no sign unless the number is negative, and no leading zero.
-/

namespace CounterForms.Text

/-- Inclusive ranges of code points in increasing order. -/
abbrev Ranges := List (Nat × Nat)

def Ranges.covers : Ranges → Nat → Bool
  | [], _ => false
  | (first, last) :: later, code =>
      if code < first then false else code ≤ last || Ranges.covers later code

def Ranges.has (ranges : Ranges) (character : Char) : Bool :=
  ranges.covers character.toNat

def blankRanges : Ranges :=
  [
    (0x9, 0xD), (0x20, 0x20), (0x85, 0x85), (0xA0, 0xA0), (0x1680, 0x1680), (0x2000, 0x200A),
    (0x2028, 0x2029), (0x202F, 0x202F), (0x205F, 0x205F), (0x3000, 0x3000)
  ]

def isBlank (character : Char) : Bool := blankRanges.has character

def trimBlanks (characters : List Char) : List Char :=
  ((characters.dropWhile isBlank).reverse.dropWhile isBlank).reverse

def trim (text : String) : String := String.ofList (trimBlanks text.toList)

def isBlankText (text : String) : Bool := text.toList.all isBlank

def isDigit (character : Char) : Bool := '0' ≤ character && character ≤ '9'

/-- The value of a digit, also of a hexadecimal one in either case. -/
def digitValue (character : Char) : Nat :=
  if isDigit character then character.toNat - 0x30
  else if 'a' ≤ character && character ≤ 'f' then character.toNat - 0x57
  else if 'A' ≤ character && character ≤ 'F' then character.toNat - 0x37
  else 0

def isHexDigit (character : Char) : Bool :=
  isDigit character || ('a' ≤ character && character ≤ 'f') || ('A' ≤ character && character ≤ 'F')

/-- The number that digits of a base spell, the most significant first. -/
def digitsValue (base : Nat) (digits : List Char) : Nat :=
  digits.foldl (fun value digit => value * base + digitValue digit) 0

def natNumeral (value : Nat) : List Char := Nat.toDigits 10 value

def intNumeral : Int → List Char
  | .ofNat value => natNumeral value
  | .negSucc value => '-' :: natNumeral (value + 1)

def natText (value : Nat) : String := String.ofList (natNumeral value)

def intText (value : Int) : String := String.ofList (intNumeral value)

end CounterForms.Text
