namespace TestQuery

/-!
# Finite doubles

The finite numbers of the 64-bit binary format: `significand · 2 ^ exponent` with
a sign, where the significand has at most 53 bits and the exponent lies between
-1074 and 971.  Arithmetic is exact and then rounded to the nearest double, a
half going to the even neighbour.
-/

/-- A finite double.  Zero keeps its sign. -/
structure Binary64 where
  negative : Bool
  significand : Nat
  exponent : Int
deriving DecidableEq, Repr

namespace Binary64

def leastExponent : Int := -1074

def greatestExponent : Int := 971

def zero (negative : Bool) : Binary64 :=
  ⟨negative, 0, leastExponent⟩

def isZero (value : Binary64) : Bool :=
  value.significand == 0

/-- A quotient rounded to the nearest integer, a half to the even one. -/
def roundDiv (numerator denominator : Nat) : Nat :=
  let quotient := numerator / denominator
  let remainder := numerator % denominator
  if 2 * remainder > denominator ∨ (2 * remainder = denominator ∧ quotient % 2 = 1) then
    quotient + 1
  else quotient

/-- The power of two at or below a positive quotient. -/
def floorLog2 (numerator denominator : Nat) : Int :=
  let estimate : Int := Nat.log2 numerator - Nat.log2 denominator
  let reached :=
    if 0 ≤ estimate then denominator * Nat.pow 2 estimate.toNat ≤ numerator
    else denominator ≤ numerator * Nat.pow 2 (-estimate).toNat
  if reached then estimate else estimate - 1

/-- The double nearest to `numerator / denominator`, if it is finite.  The
denominator is positive. -/
def ofRatio? (negative : Bool) (numerator denominator : Nat) : Option Binary64 :=
  if numerator = 0 then some (zero negative)
  else
    let exponent := max (floorLog2 numerator denominator - 52) leastExponent
    let rounded :=
      if 0 ≤ exponent then roundDiv numerator (denominator * Nat.pow 2 exponent.toNat)
      else roundDiv (numerator * Nat.pow 2 (-exponent).toNat) denominator
    -- Rounding up may reach the next power of two.
    let (significand, exponent) :=
      if rounded = Nat.pow 2 53 then (Nat.pow 2 52, exponent + 1) else (rounded, exponent)
    if greatestExponent < exponent then none else some ⟨negative, significand, exponent⟩

/-- The double nearest to an integer below 2 ^ 64. -/
def ofNat (value : Nat) : Binary64 :=
  (ofRatio? false value 1).getD (zero false)

/-- Numerator and denominator of the magnitude. -/
def ratio (value : Binary64) : Nat × Nat :=
  if 0 ≤ value.exponent then (value.significand * Nat.pow 2 value.exponent.toNat, 1)
  else (value.significand, Nat.pow 2 (-value.exponent).toNat)

/-- The rounded product, if it is finite. -/
def mul? (left right : Binary64) : Option Binary64 :=
  let (leftTop, leftBottom) := left.ratio
  let (rightTop, rightBottom) := right.ratio
  ofRatio? (left.negative != right.negative) (leftTop * rightTop) (leftBottom * rightBottom)

/-- The rounded quotient, if it is finite.  The divisor is not zero. -/
def div? (left right : Binary64) : Option Binary64 :=
  let (leftTop, leftBottom) := left.ratio
  let (rightTop, rightBottom) := right.ratio
  ofRatio? (left.negative != right.negative) (leftTop * rightBottom) (leftBottom * rightTop)

def neg (value : Binary64) : Binary64 :=
  { value with negative := !value.negative }

/-! ## Decimal scaling -/

/-- The greatest exponent whose power of ten is a double. -/
def greatestTen : Nat := 308

/-- The double nearest to a power of ten, for exponents up to `greatestTen`. -/
def tenPower (exponent : Nat) : Binary64 :=
  (ofRatio? false (Nat.pow 10 exponent) 1).getD (zero false)

/-- Divide by a power of ten, in steps that are doubles themselves.  Each step
rounds. -/
def divTenPower (value : Binary64) (exponent : Nat) : Binary64 :=
  if value.isZero then value
  else if exponent ≤ greatestTen then (value.div? (tenPower exponent)).getD value
  else
    divTenPower ((value.div? (tenPower greatestTen)).getD value) (exponent - greatestTen)
termination_by exponent
decreasing_by
  have : 0 < greatestTen := by decide
  omega

/-- Multiply by a power of ten, if the result is finite. -/
def mulTenPower? (value : Binary64) (exponent : Nat) : Option Binary64 :=
  if value.isZero then some value
  else if exponent ≤ greatestTen then value.mul? (tenPower exponent)
  else none

/-- The number `digits · 10 ^ exponent` as a double, if it is finite: the digits
are rounded first and then scaled. -/
def ofDecimal? (digits : Nat) (exponent : Int) : Option Binary64 :=
  if 0 ≤ exponent then (ofNat digits).mulTenPower? exponent.toNat
  else some ((ofNat digits).divTenPower (-exponent).toNat)

end Binary64

end TestQuery
