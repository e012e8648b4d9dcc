import TestQuery.Binary64

namespace TestQuery
namespace Binary64

/-!
# Shortest decimals

A double is written with the fewest significant digits that read back as the
same double; of those decimals, the nearest one is taken, and the even one of
two that are equally near.
-/

def digitCount (value : Nat) : Nat :=
  (Nat.toDigits 10 value).length

/-- The power of ten at or below a positive quotient. -/
def floorLog10 (numerator denominator : Nat) : Int :=
  if denominator ≤ numerator then (digitCount (numerator / denominator) : Int) - 1
  else
    -- The least power of ten at or above the inverse.
    let inverse := (denominator + numerator - 1) / numerator
    Int.neg (digitCount (inverse - 1))

/-- The reals that round to a positive double, times a common scale: the double
itself, the ends of the interval, and whether the ends belong to it. -/
structure Interval where
  value : Nat
  low : Nat
  high : Nat
  closed : Bool
  scale : Nat

/-- The interval of a double.  Below a power of two the next double is only half
as far away. -/
def interval (double : Binary64) : Interval :=
  let significand := double.significand
  let below :=
    if significand = Nat.pow 2 52 ∧ leastExponent < double.exponent then 1 else 2
  let closed := significand % 2 == 0
  let power := double.exponent - 2
  if 0 ≤ power then
    let unit := Nat.pow 2 power.toNat
    ⟨4 * significand * unit, (4 * significand - below) * unit, (4 * significand + 2) * unit,
      closed, 1⟩
  else
    ⟨4 * significand, 4 * significand - below, 4 * significand + 2, closed,
      Nat.pow 2 (-power).toNat⟩

/-- Measure the interval in units of a power of ten. -/
def Interval.inUnits (interval : Interval) (exponent : Int) : Interval :=
  if 0 ≤ exponent then { interval with scale := interval.scale * Nat.pow 10 exponent.toNat }
  else
    let factor := Nat.pow 10 (-exponent).toNat
    { interval with
      value := interval.value * factor
      low := interval.low * factor
      high := interval.high * factor }

def Interval.contains (interval : Interval) (point : Nat) : Bool :=
  let scaled := point * interval.scale
  if interval.closed then interval.low ≤ scaled && scaled ≤ interval.high
  else interval.low < scaled && scaled < interval.high

/-- The integer of the interval nearest to the double, if there is one: it is one
of the two integers around the double. -/
def Interval.nearest? (interval : Interval) : Option Nat :=
  let floor := interval.value / interval.scale
  let remainder := interval.value % interval.scale
  match interval.contains floor, interval.contains (floor + 1) with
  | true, true =>
    some (if 2 * remainder < interval.scale ∨ (2 * remainder = interval.scale ∧ floor % 2 = 0)
      then floor else floor + 1)
  | true, false => some floor
  | false, true => some (floor + 1)
  | false, false => none

/-- A decimal `digits · 10 ^ exponent`. -/
structure Decimal where
  digits : Nat
  exponent : Int
deriving DecidableEq, Repr

/-- Try `count` digits, then more, as long as `more` allows. -/
def searchDigits (interval : Interval) (lead : Int) : (count more : Nat) → Decimal
  | count, 0 => ⟨interval.value / interval.scale, lead - count + 1⟩
  | count, more + 1 =>
    let exponent := lead - count + 1
    match (interval.inUnits exponent).nearest? with
    | some digits => ⟨digits, exponent⟩
    | none => searchDigits interval lead (count + 1) more

/-- The shortest decimal of a positive double.  Seventeen digits always suffice. -/
def shortest (double : Binary64) : Decimal :=
  let range := double.interval
  searchDigits range (floorLog10 range.value range.scale) 1 17

/-! ## Written form -/

def trimZeros (digits : List Char) : List Char :=
  (digits.reverse.dropWhile (· == '0')).reverse

/-- A power of ten.  Its sign is always written. -/
def writtenPower (power : Int) : List Char :=
  (if power < 0 then '-' else '+') :: Nat.toDigits 10 power.natAbs

/-- A written double has its point among the digits, or at most four zeros before
them, or zeros after them up to sixteen places; otherwise it has an exponent. -/
def writtenDigits (digits : List Char) (point : Int) : List Char :=
  let count : Int := digits.length
  if count ≤ point ∧ point ≤ 16 then
    digits ++ List.replicate (point - count).toNat '0' ++ ['.', '0']
  else if 0 < point ∧ point ≤ 16 then
    digits.take point.toNat ++ '.' :: digits.drop point.toNat
  else if -5 < point ∧ point ≤ 0 then
    '0' :: '.' :: (List.replicate (-point).toNat '0' ++ digits)
  else
    let power := writtenPower (point - 1)
    match digits with
    | [single] => single :: 'e' :: power
    | first :: others => first :: '.' :: (others ++ 'e' :: power)
    | [] => []

protected def toString (double : Binary64) : String :=
  let sign := if double.negative then ['-'] else []
  if double.isZero then String.ofList (sign ++ ['0', '.', '0'])
  else
    let decimal := double.shortest
    let allDigits := Nat.toDigits 10 decimal.digits
    let point := (allDigits.length : Int) + decimal.exponent
    String.ofList (sign ++ writtenDigits (trimZeros allDigits) point)

instance : ToString Binary64 where
  toString := Binary64.toString

end Binary64
end TestQuery
