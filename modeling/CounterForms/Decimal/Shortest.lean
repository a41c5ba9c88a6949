import CounterForms.Decimal.Binary64
import CounterForms.Text.Basic

/-!
The shortest decimal that reads back as a given binary number, and the two ways of writing it. On
the grid of one digit, of two digits and so on the neighbours of the number are tried; the first
grid with a point that rounds to the number wins, and of two such points the nearer.
-/

namespace CounterForms

structure Decimal where
  digits : Nat
  exponent : Int
deriving DecidableEq, Inhabited

inductive TieRule
  | toEven
  | upward
deriving DecidableEq

namespace Binary64

/-- A quarter of the distance to the next number down and up, in units of a quarter step: below a
power of two the numbers lie twice as close. -/
def quarterGapBelow (number : Binary64) : Nat :=
  if number.significand = leastFull && leastExponent < number.exponent then 1 else 2

def leadingExponent (numerator denominator : Nat) : Int :=
  if denominator ≤ numerator then (Nat.toDigits 10 (numerator / denominator)).length - 1
  else
    let quotient := denominator / numerator
    let length := (Nat.toDigits 10 quotient).length
    if denominator ≤ numerator * Nat.pow 10 (length - 1) then -((length - 1 : Nat) : Int)
    else -(length : Int)

/-- The point of the grid of `10 ^ exponent` that stands for the number, if there is one. -/
def gridPoint? (tie : TieRule) (number : Binary64) (exponent : Int) : Option Nat :=
  let (up, down) := powerRatio 2 number.exponent
  let (gridUp, gridDown) := powerRatio 10 exponent
  -- all quantities are counted in quarter steps over the common denominator `unit`
  let unit := 4 * down * gridUp
  let scaled (quarters : Nat) : Nat := quarters * up * gridDown
  let value := scaled (4 * number.significand)
  let least := scaled (4 * number.significand - number.quarterGapBelow)
  let greatest := scaled (4 * number.significand + 2)
  let closed := number.significand % 2 == 0
  let inside (point : Nat) : Bool :=
    let place := point * unit
    (least < place && place < greatest) || (closed && (place == least || place == greatest))
  let below := value / unit
  let above := below + 1
  match inside below, inside above with
  | false, false => none
  | true, false => some below
  | false, true => some above
  | true, true =>
      let toBelow := value - below * unit
      let toAbove := above * unit - value
      if toBelow < toAbove then some below
      else if toAbove < toBelow then some above
      else
        match tie with
        | .toEven => some (if below % 2 == 0 then below else above)
        | .upward => some above

/-- Tries grids from the coarse to the fine. -/
def firstGridPoint (tie : TieRule) (number : Binary64) : Nat → Int → Decimal
  | 0, exponent => ⟨0, exponent⟩
  | grids + 1, exponent =>
      match gridPoint? tie number exponent with
      | some digits => ⟨digits, exponent⟩
      | none => firstGridPoint tie number grids (exponent - 1)

/-- The shortest decimal that reads back as the magnitude of a number. -/
def shortest (tie : TieRule) (number : Binary64) : Decimal :=
  if number.significand = 0 then ⟨0, 0⟩
  else
    let (numerator, denominator) := number.ratio
    firstGridPoint tie number 18 (leadingExponent numerator denominator)

end Binary64

namespace Decimal

def dropZeros : Nat → Decimal → Decimal
  | 0, decimal => decimal
  | steps + 1, decimal =>
      if decimal.digits ≠ 0 ∧ decimal.digits % 10 = 0 then
        dropZeros steps ⟨decimal.digits / 10, decimal.exponent + 1⟩
      else decimal

def leading (decimal : Decimal) : Int :=
  decimal.exponent + (Text.natNumeral decimal.digits).length - 1

/-- The digits with a point at its place, and `.0` behind a whole number. -/
def positional (decimal : Decimal) : List Char :=
  let digits := Text.natNumeral decimal.digits
  match decimal.exponent with
  | .ofNat zeros => digits ++ List.replicate zeros '0' ++ ['.', '0']
  | .negSucc places =>
      let padded := List.replicate (places + 2 - digits.length) '0' ++ digits
      padded.take (padded.length - (places + 1)) ++ ['.'] ++
        padded.drop (padded.length - (places + 1))

/-- One digit before the point, and an exponent with a sign and at least two digits. -/
def scientific (decimal : Decimal) : List Char :=
  let digits := Text.natNumeral decimal.digits
  let mantissa := match digits with
    | [] => []
    | [digit] => [digit]
    | digit :: others => digit :: '.' :: others
  let exponent := decimal.leading
  let magnitude := Text.natNumeral exponent.natAbs
  let padded := List.replicate (2 - magnitude.length) '0' ++ magnitude
  mantissa ++ ['e', if exponent < 0 then '-' else '+'] ++ padded

end Decimal

end CounterForms
