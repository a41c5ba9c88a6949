import CounterForms.Decimal.Binary64
import CounterForms.Decimal.Shortest
import CounterForms.Json.Value

/-!
Numbers of JSON. A whole number that fits 64 bits is kept exactly. Every other number is a
significand of digits, taken as long as they stay below 2^64, and a power of ten; the significand is
rounded to a binary number and then multiplied or divided by the rounded power.
-/

namespace CounterForms.Json

/-- Digits gathered so far and the power of ten they are to be scaled by. -/
structure Scaled where
  significand : Nat
  exponent : Int

def Scaled.append (scaled : Scaled) (digit : Char) : Nat :=
  scaled.significand * 10 + Text.digitValue digit

def Scaled.takes (scaled : Scaled) (digit : Char) : Bool :=
  Word.holdsNatural 64 (scaled.append digit)

/-- Takes the digits before the point; from the first that does not fit, each one only scales. -/
def Scaled.takeWhole : Scaled → List Char → Scaled
  | scaled, [] => scaled
  | scaled, digit :: later =>
      if scaled.takes digit then takeWhole { scaled with significand := scaled.append digit } later
      else { scaled with exponent := (digit :: later).length }

/-- Takes the digits behind the point up to the first that does not fit. -/
def Scaled.takeFraction : Scaled → List Char → Scaled
  | scaled, [] => scaled
  | scaled, digit :: later =>
      if scaled.takes digit then takeFraction ⟨scaled.append digit, scaled.exponent - 1⟩ later
      else scaled

/-- The largest power of ten that is a binary number. -/
def greatestPower : Nat := 308

/-- Divides by `10 ^ greatestPower` until the rest of the exponent is within reach. -/
def divideFar : Nat → Binary64 → Nat → Option Binary64
  | 0, _, _ => none
  | rounds + 1, dividend, down =>
      if down ≤ greatestPower then do
        let power ← Binary64.ofDecimal false 1 down
        dividend.divide power
      else if dividend.significand = 0 then some dividend
      else do
        let power ← Binary64.ofDecimal false 1 greatestPower
        let quotient ← dividend.divide power
        divideFar rounds quotient (down - greatestPower)

/-- The binary number for a scaled significand, or none if it is too large. -/
def Scaled.toBinary (negative : Bool) (scaled : Scaled) : Option Binary64 := do
  let significand ← Binary64.ofDecimal false scaled.significand 0
  let magnitude ← match scaled.exponent with
    | .ofNat up =>
        if up ≤ greatestPower then do
          let power ← Binary64.ofDecimal false 1 up
          significand.multiply power
        else if scaled.significand = 0 then some significand
        else none
    | .negSucc down => divideFar 4 significand (down + 1)
  some { magnitude with negative := negative }

/-- The value of a numeral without point and exponent. A negative zero keeps its sign and so is a
binary number. -/
def wholeNumber (negative : Bool) (digits : List Char) : Option Json :=
  let magnitude := Text.digitsValue 10 digits
  if !negative && Word.holdsNatural 64 magnitude then some (.integer magnitude)
  else if negative && 0 < magnitude && Word.holdsSigned 63 (-magnitude) then
    some (.integer (-magnitude))
  else ((Scaled.takeWhole ⟨0, 0⟩ digits).toBinary negative).map .number

def spanDigits (input : List Char) : List Char × List Char := input.span Text.isDigit

/-- Digits that have to be there: the fault tells whether the text ends instead. -/
def readDigits (input : List Char) : Except Fault (List Char × List Char) :=
  match spanDigits input with
  | ([], []) => throw .cutShort
  | ([], _ :: _) => throw .malformed
  | (digits, rest) => pure (digits, rest)

/-- An exponent behind its letter: its sign and digits. -/
def readExponent (input : List Char) : Except Fault ((Bool × List Char) × List Char) :=
  match input with
  | '-' :: rest => do
      let (digits, behind) ← readDigits rest
      pure ((true, digits), behind)
  | '+' :: rest => do
      let (digits, behind) ← readDigits rest
      pure ((false, digits), behind)
  | _ => do
      let (digits, behind) ← readDigits input
      pure ((false, digits), behind)

/-- Exponents from here on count as endless. -/
def exponentLimit : Nat := Word.count 31

def Scaled.raise (scaled : Scaled) (down : Bool) (digits : List Char) : Scaled :=
  let exponent : Int := Text.digitsValue 10 digits
  { scaled with
    exponent := if down then scaled.exponent - exponent else scaled.exponent + exponent }

def finishNumber (negative : Bool) (scaled : Scaled) (rest : List Char) :
    Except Fault (Json × List Char) :=
  match scaled.toBinary negative with
  | some value => pure (.number value, rest)
  | none => throw .malformed

def readScaledEnd (negative : Bool) (scaled : Scaled) (input : List Char) :
    Except Fault (Json × List Char) :=
  match input with
  | 'e' :: rest | 'E' :: rest => do
      let ((down, digits), behind) ← readExponent rest
      if Text.digitsValue 10 digits < exponentLimit then
        finishNumber negative (scaled.raise down digits) behind
      else if scaled.significand ≠ 0 ∧ !down then throw .malformed
      else pure (.number (Binary64.zero negative), behind)
  | _ => finishNumber negative scaled input

def readUnsigned (negative : Bool) (input : List Char) : Except Fault (Json × List Char) := do
  let (digits, rest) ← readDigits input
  if digits.head? = some '0' ∧ digits.tail ≠ [] then throw .malformed
  let whole := Scaled.takeWhole ⟨0, 0⟩ digits
  match rest with
  | '.' :: behindPoint => do
      let (fraction, behind) ← readDigits behindPoint
      readScaledEnd negative (whole.takeFraction fraction) behind
  | 'e' :: _ | 'E' :: _ => readScaledEnd negative whole rest
  | _ =>
      match wholeNumber negative digits with
      | some value => pure (value, rest)
      | none => throw .malformed

/-- A binary number as text: positional from 0.00001 up to below 10^16. -/
def numberText (number : Binary64) : List Char :=
  let decimal := (number.shortest .toEven).dropZeros 20
  let digits :=
    if -5 ≤ decimal.leading ∧ decimal.leading ≤ 15 then decimal.positional else decimal.scientific
  if number.negative then '-' :: digits else digits

end CounterForms.Json
