/-!
Numbers as a machine holds them. A word of some bits holds a whole number; with a sign it holds as
many numbers below zero as it holds from zero on. The 64-bit binary floating format holds a sign, a
significand below 2^53 and an exponent of two; it is given here in exact arithmetic, every operation
being the exact result rounded to the nearest such number, a tie going to the even significand. A
result beyond the largest number is none.
-/

namespace CounterForms

namespace Word

/-- The numbers that a word tells apart. -/
def count (bits : Nat) : Nat := Nat.pow 2 bits

def holdsNatural (bits : Nat) (value : Nat) : Bool := value < count bits

/-- Whether a number fits a word of one bit for the sign and further bits for the magnitude. -/
def holdsSigned (magnitudeBits : Nat) (value : Int) : Bool :=
  match value with
  | .ofNat magnitude => magnitude < count magnitudeBits
  | .negSucc beyond => beyond < count magnitudeBits

/-- Whether a number fits a word with a sign of that many bits, or one without a sign that is as
wide. -/
def holdsEither (magnitudeBits : Nat) (value : Int) : Bool :=
  match value with
  | .ofNat magnitude => magnitude < count (magnitudeBits + 1)
  | .negSucc beyond => beyond < count magnitudeBits

/-- The sum of two numbers in a word without a sign. What is carried out of the word is lost. -/
def sum (bits : Nat) (one other : Nat) : Nat := (one + other) % count bits

end Word

/-- The number `± significand * 2 ^ exponent`. -/
structure Binary64 where
  negative : Bool
  significand : Nat
  exponent : Int
deriving DecidableEq, Inhabited

namespace Binary64

def leastExponent : Int := -1074

def greatestExponent : Int := 971

/-- The least significand of a number whose step leaves it all its bits, 2^52. -/
def leastFull : Nat := 4503599627370496

def zero (negative : Bool) : Binary64 := ⟨negative, 0, leastExponent⟩

def powerRatio (base : Nat) (exponent : Int) : Nat × Nat :=
  match exponent with
  | .ofNat up => (Nat.pow base up, 1)
  | .negSucc down => (1, Nat.pow base (down + 1))

/-- A quotient rounded to the nearest whole number, a tie going to the even one. -/
def roundQuotient (numerator denominator : Nat) : Nat :=
  let whole := numerator / denominator
  let twice := 2 * (numerator % denominator)
  if twice < denominator || (twice == denominator && whole % 2 == 0) then whole else whole + 1

/-- The quotient `numerator / denominator` counted in steps of `2 ^ exponent`, rounded. -/
def stepsOf (numerator denominator : Nat) (exponent : Int) : Nat :=
  let (up, down) := powerRatio 2 exponent
  roundQuotient (numerator * down) (denominator * up)

/-- The exponent of the step that leaves 53 bits for a quotient, or the least one. -/
def stepExponent (numerator denominator : Nat) : Int :=
  let guess : Int := numerator.log2 - denominator.log2 - 53
  let (up, down) := powerRatio 2 guess
  let fitting := if numerator * down < 2 * leastFull * (denominator * up) then guess else guess + 1
  max leastExponent fitting

/-- The number nearest to a quotient, or none if that lies beyond the largest. -/
def ofQuotient (negative : Bool) (numerator denominator : Nat) : Option Binary64 :=
  if numerator = 0 then some (zero negative)
  else
    let exponent := stepExponent numerator denominator
    let steps := stepsOf numerator denominator exponent
    let rounded : Binary64 :=
      if steps < 2 * leastFull then ⟨negative, steps, exponent⟩
      else ⟨negative, leastFull, exponent + 1⟩
    if rounded.exponent ≤ greatestExponent then some rounded else none

def ratio (number : Binary64) : Nat × Nat :=
  let (up, down) := powerRatio 2 number.exponent
  (number.significand * up, down)

/-- The number nearest to `± significand * 10 ^ exponent`. -/
def ofDecimal (negative : Bool) (significand : Nat) (exponent : Int) : Option Binary64 :=
  let (up, down) := powerRatio 10 exponent
  ofQuotient negative (significand * up) down

def multiply (one other : Binary64) : Option Binary64 :=
  let (oneUp, oneDown) := one.ratio
  let (otherUp, otherDown) := other.ratio
  ofQuotient (one.negative != other.negative) (oneUp * otherUp) (oneDown * otherDown)

def divide (one other : Binary64) : Option Binary64 :=
  let (oneUp, oneDown) := one.ratio
  let (otherUp, otherDown) := other.ratio
  ofQuotient (one.negative != other.negative) (oneUp * otherDown) (oneDown * otherUp)

def isWhole (number : Binary64) : Bool :=
  let (up, down) := number.ratio
  up % down == 0

end Binary64

end CounterForms
