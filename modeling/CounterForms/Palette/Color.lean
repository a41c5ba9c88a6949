import CounterForms.Text.Basic
import CounterForms.Text.LowerCase

/-!
Colours of a terminal and how a configuration writes them: by name, as `#rrggbb`, or not at all. The
letter case and blanks around the text do not count.
-/

namespace CounterForms

/-- A colour of the terminal's own palette, a mixed one, or whatever the terminal has set. -/
inductive Color
  | reset
  | black
  | red
  | green
  | yellow
  | blue
  | magenta
  | cyan
  | gray
  | darkGray
  | lightRed
  | lightGreen
  | lightYellow
  | lightBlue
  | lightMagenta
  | lightCyan
  | white
  | mixed (red green blue : UInt8)
deriving DecidableEq, Inhabited

def namedColors : List (String × Color) :=
  [
    ("terminal", .reset), ("black", .black), ("red", .red), ("green", .green),
    ("yellow", .yellow), ("blue", .blue), ("magenta", .magenta), ("cyan", .cyan),
    ("gray", .gray), ("grey", .gray), ("darkgray", .darkGray), ("darkgrey", .darkGray),
    ("lightred", .lightRed), ("lightgreen", .lightGreen), ("lightyellow", .lightYellow),
    ("lightblue", .lightBlue), ("lightmagenta", .lightMagenta), ("lightcyan", .lightCyan),
    ("white", .white)
  ]

/-- What can be wrong with the text of a colour, which is kept trimmed and in small letters. -/
inductive ColorFault
  /-- Neither a name nor a number sign with six ASCII characters. -/
  | form (text : String)
  /-- One of the six characters is no hexadecimal digit. -/
  | digit (text : String)
  /-- A plus sign takes the place of the first digit. -/
  | sign (text : String)
deriving DecidableEq

def ColorFault.messages : ColorFault → List String
  | .form text =>
      ["Color " ++ text ++ " format is not correct, it must be in format of #ffffff"]
  | .digit text =>
      ["Color " ++ text ++ " is not a valid hex string, it must be in format of #ffffff",
        "invalid digit found in string"]
  | .sign text =>
      ["Color " ++ text ++ " is not a valid hex string, it must be in format of #ffffff"]

def byteOfDigits (high low : Char) : UInt8 :=
  UInt8.ofNat (16 * Text.digitValue high + Text.digitValue low)

def Color.ofSixDigits (text : String) (digits : List Char) : Except ColorFault Color :=
  match digits with
  | [r₁, r₂, g₁, g₂, b₁, b₂] =>
      if digits.all Text.isHexDigit then
        pure (.mixed (byteOfDigits r₁ r₂) (byteOfDigits g₁ g₂) (byteOfDigits b₁ b₂))
      else if !digits.all fun digit => digit.toNat < 128 then throw (.form text)
      else if r₁ = '+' && digits.tail.all Text.isHexDigit then throw (.sign text)
      else throw (.digit text)
  | _ => throw (.form text)

/-- Reads a colour; a blank text names none. -/
def Color.ofText? (text : String) : Except ColorFault (Option Color) :=
  let shown := Text.lowerCase (Text.trim text)
  if shown.isEmpty then pure none
  else
    match namedColors.lookup shown with
    | some color => pure (some color)
    | none =>
        match shown.toList with
        | '#' :: digits => some <$> Color.ofSixDigits shown digits
        | _ => throw (.form shown)

end CounterForms
