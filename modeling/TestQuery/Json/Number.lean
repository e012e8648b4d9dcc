import TestQuery.Json
import TestQuery.Text

namespace TestQuery
namespace Json

/-!
# Numerals

A numeral without fraction and exponent is a whole number as long as a word of
64 bits can hold it; every other numeral is a double.  The digits that a word of
64 bits can hold are kept, further ones only count as places.
-/

/-- The parts of a numeral.  Fraction and exponent are absent or not empty. -/
structure Numeral where
  negative : Bool
  whole : List Char
  fraction : Option (List Char)
  /-- The sign of the exponent and its digits. -/
  exponent : Option (Bool × List Char)

def maxNat64 : Nat := Nat.pow 2 64 - 1

/-- Append digits to a number until it would no longer fit; also gives how many
were appended. -/
def absorb (value : Nat) : List Char → Nat × Nat
  | [] => (value, 0)
  | digit :: rest =>
    let extended := value * 10 + (digit.toNat - '0'.toNat)
    if extended ≤ maxNat64 then
      let (final, count) := absorb extended rest
      (final, count + 1)
    else (value, 0)

namespace Numeral

def signed (numeral : Numeral) (magnitude : Binary64) : Json :=
  .float (if numeral.negative then magnitude.neg else magnitude)

def exponentValue (numeral : Numeral) : Int :=
  match numeral.exponent with
  | none => 0
  | some (negative, digits) =>
    let magnitude : Int := Text.decimalValue digits
    if negative then -magnitude else magnitude

/-- The value of a numeral; a double too large to be finite has none.  Minus zero
is a double, since no whole number has its sign. -/
def value? (numeral : Numeral) : Option Json :=
  let (whole, kept) := absorb 0 numeral.whole
  let dropped := numeral.whole.length - kept
  match numeral.fraction, numeral.exponent, dropped with
  | none, none, 0 =>
    if numeral.negative then
      if 0 < whole ∧ whole ≤ Nat.pow 2 63 then some (.int (-(whole : Int)))
      else some (numeral.signed (.ofNat whole))
    else some (.int whole)
  | fraction, _, _ =>
    let (digits, places) := absorb whole (fraction.getD [])
    (Binary64.ofDecimal? digits (dropped - places + numeral.exponentValue)).map numeral.signed

end Numeral

end Json
end TestQuery
