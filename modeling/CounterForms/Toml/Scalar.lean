import CounterForms.Text.Basic
import CounterForms.Text.Pieces
import CounterForms.Toml.Value

/-!
Scalars that are written without quotes: truth values, whole and floating numbers, dates and times.
Digits may be grouped by single underscores, decimal numbers have no leading zero, and a date has to
be one of the calendar.
-/

namespace CounterForms.Toml

def groupedDigits? (isDigit : Char → Bool) (written : List Char) : Option (List Char) :=
  let groups := Text.pieces '_' written
  if groups.all fun group => !group.isEmpty && group.all isDigit then some groups.flatten else none

/-- The digits of a decimal whole number, which start with zero only if that is all. -/
def wholeDigits? (written : List Char) : Option (List Char) := do
  let digits ← groupedDigits? Text.isDigit written
  if digits.head? = some '0' ∧ digits.length ≠ 1 then none else some digits

def splitSign (written : List Char) : Bool × List Char :=
  match written with
  | '-' :: rest => (true, rest)
  | '+' :: rest => (false, rest)
  | _ => (false, written)

def isDigitBelow (base : Nat) (character : Char) : Bool :=
  Text.isHexDigit character && Text.digitValue character < base

/-- A whole number in one of the bases that are marked by a letter. -/
def basedInteger? (base : Nat) (written : List Char) : Option Value := do
  let digits ← groupedDigits? (isDigitBelow base) written
  some (.integer (Text.digitsValue base digits))

def integer? (written : List Char) : Option Value :=
  match written with
  | '0' :: 'x' :: digits => basedInteger? 16 digits
  | '0' :: 'o' :: digits => basedInteger? 8 digits
  | '0' :: 'b' :: digits => basedInteger? 2 digits
  | _ => do
      let (negative, unsigned) := splitSign written
      let digits ← wholeDigits? unsigned
      let magnitude : Int := Text.digitsValue 10 digits
      some (.integer (if negative then -magnitude else magnitude))

def exponent? (written : Option (List Char)) : Option Int :=
  match written with
  | none => some 0
  | some text => do
      let (negative, unsigned) := splitSign text
      let digits ← groupedDigits? Text.isDigit unsigned
      let magnitude : Int := Text.digitsValue 10 digits
      some (if negative then -magnitude else magnitude)

/-- The digits behind the point, which may be left out with the point. -/
def fraction? (written : Option (List Char)) : Option (List Char) :=
  match written with
  | none => some []
  | some text => groupedDigits? Text.isDigit text

def splitAtFirst (isMark : Char → Bool) (written : List Char) : List Char × Option (List Char) :=
  match written.span fun character => !isMark character with
  | (before, []) => (before, none)
  | (before, _ :: behind) => (before, some behind)

/-- Numbers with a first digit beyond this power of ten overflow, and below its inverse they vanish.
-/
def farExponent : Nat := 400

/-- The binary number for decimal digits, or none if it is too large. -/
def finite? (negative : Bool) (digits : List Char) (exponent : Int) : Option Binary64 :=
  let significand := Text.digitsValue 10 digits
  let leading := exponent + (Text.natNumeral significand).length
  if significand = 0 ∨ leading < -(farExponent : Int) then some (.zero negative)
  else if (farExponent : Int) < leading then none
  else Binary64.ofDecimal negative significand exponent

def floating? (written : List Char) : Option Value := do
  let (negative, unsigned) := splitSign written
  if unsigned = ['i', 'n', 'f'] then some (.floating (.infinite negative))
  else if unsigned = ['n', 'a', 'n'] then some (.floating .undefined)
  else
    let (mantissa, exponentText) := splitAtFirst (fun mark => mark == 'e' || mark == 'E') unsigned
    let (wholeText, fractionText) := splitAtFirst (· == '.') mantissa
    if exponentText.isNone && fractionText.isNone then none
    let whole ← wholeDigits? wholeText
    let fraction ← fraction? fractionText
    let exponent ← exponent? exponentText
    let number ← finite? negative (whole ++ fraction) (exponent - fraction.length)
    some (.floating (.finite number))

def isLeapYear (year : Nat) : Bool :=
  year % 4 == 0 && (year % 100 != 0 || year % 400 == 0)

def daysInMonth (year month : Nat) : Nat :=
  if month = 2 then (if isLeapYear year then 29 else 28)
  else if month = 4 ∨ month = 6 ∨ month = 9 ∨ month = 11 then 30
  else 31

def date? : List Char → Option (List Char)
  | y₁ :: y₂ :: y₃ :: y₄ :: '-' :: m₁ :: m₂ :: '-' :: d₁ :: d₂ :: rest =>
      let year := Text.digitsValue 10 [y₁, y₂, y₃, y₄]
      let month := Text.digitsValue 10 [m₁, m₂]
      let day := Text.digitsValue 10 [d₁, d₂]
      if [y₁, y₂, y₃, y₄, m₁, m₂, d₁, d₂].all Text.isDigit && 1 ≤ month && month ≤ 12 &&
          1 ≤ day && day ≤ daysInMonth year month then
        some rest
      else none
  | _ => none

def upTo? (greatest : Nat) : List Char → Option (List Char)
  | d₁ :: d₂ :: rest =>
      if Text.isDigit d₁ && Text.isDigit d₂ && Text.digitsValue 10 [d₁, d₂] ≤ greatest then
        some rest
      else none
  | _ => none

def hourMinute? (written : List Char) : Option (List Char) := do
  match ← upTo? 23 written with
  | ':' :: rest => upTo? 59 rest
  | _ => none

/-- Splits off a time of day, in which seconds and their fraction may be left out. -/
def time? (written : List Char) : Option (List Char) := do
  match ← hourMinute? written with
  | ':' :: secondText =>
      match ← upTo? 60 secondText with
      | '.' :: fractionText =>
          let behind := fractionText.dropWhile Text.isDigit
          if behind.length < fractionText.length then some behind else none
      | rest => some rest
  | rest => some rest

/-- Whether a text is an offset from universal time, or empty. -/
def isOffset (written : List Char) : Bool :=
  match written with
  | [] | ['Z'] | ['z'] => true
  | '+' :: rest | '-' :: rest => hourMinute? rest == some []
  | _ => false

def isMoment (written : List Char) : Bool :=
  match date? written with
  | some [] => true
  | some (mark :: rest) =>
      (mark == 'T' || mark == 't' || mark == ' ') && ((time? rest).map isOffset).getD false
  | none => time? written == some []

def scalar? (written : List Char) : Option Value :=
  if written = ['t', 'r', 'u', 'e'] then some (.boolean true)
  else if written = ['f', 'a', 'l', 's', 'e'] then some (.boolean false)
  else if isMoment written then some .moment
  else integer? written <|> floating? written

def endsScalar (character : Char) : Bool :=
  [' ', '\t', '\n', '\r', ',', '[', ']', '\x7b', '\x7d', '#', '=', '"', '\''].contains character

/-- Reads a scalar without quotes. A date may be followed by a space and a time. -/
def readScalar (input : List Char) : Option (Value × List Char) := do
  let (written, rest) := input.span fun character => !endsScalar character
  match date? written, rest with
  | some [], ' ' :: behind =>
      let (timeText, final) := behind.span fun character => !endsScalar character
      if (timeText.head?.map Text.isDigit).getD false then
        if isMoment (written ++ ' ' :: timeText) then some (.moment, final) else none
      else some (.moment, rest)
  | _, _ => do
      let value ← scalar? written
      some (value, rest)

end CounterForms.Toml
