namespace TestQuery
namespace Text

/-!
# Texts

Positions in a text, the digits of its numerals, its blanks, and tables of its
characters.
-/

/-! ## Spans

Positions in a text count the bytes of its UTF-8 form.
-/

/-- The number of bytes that the characters take. -/
def byteLength (characters : List Char) : Nat :=
  characters.foldr (fun c total => c.utf8Size + total) 0

/-- A stretch of a text: from the byte `start` up to, not including, the byte `stop`. -/
structure Span where
  start : Nat
  stop : Nat
deriving DecidableEq, Repr

/-! ## Decimal numerals

Numerals are runs of the ten ASCII digits.
-/

/-- The value of a run of digits, the most significant first. -/
def decimalValue (digits : List Char) : Nat :=
  digits.foldl (fun value digit => value * 10 + (digit.toNat - '0'.toNat)) 0

/-- The last `width` decimal digits of a number, with leading zeros. -/
def paddedDigits : (width : Nat) → Nat → List Char
  | 0, _ => []
  | width + 1, value => paddedDigits width (value / 10) ++ [Char.ofNat ('0'.toNat + value % 10)]

/-! ## Hexadecimal digits

Digits are read in either case and written in lower case.
-/

def hexValue? (c : Char) : Option Nat :=
  if '0' ≤ c ∧ c ≤ '9' then some (c.toNat - '0'.toNat)
  else if 'a' ≤ c ∧ c ≤ 'f' then some (c.toNat - 'a'.toNat + 10)
  else if 'A' ≤ c ∧ c ≤ 'F' then some (c.toNat - 'A'.toNat + 10)
  else none

/-- The lower-case digit of a value below sixteen. -/
def hexDigit (value : Nat) : Char :=
  if value < 10 then Char.ofNat ('0'.toNat + value) else Char.ofNat ('a'.toNat + (value - 10))

def hexByte (byte : UInt8) : List Char :=
  [hexDigit (byte.toNat / 16), hexDigit (byte.toNat % 16)]

/-! ## Blank characters

The Unicode property *White_Space*.  A line of the console is stripped of blanks at both
ends, and a command is cut into words at its blanks.
-/

/-- Does the character have the *White_Space* property? -/
def isBlank (c : Char) : Bool :=
  let code := c.toNat
  (0x09 ≤ code && code ≤ 0x0D) || code == 0x20 || code == 0x85 || code == 0xA0 ||
    code == 0x1680 || (0x2000 ≤ code && code ≤ 0x200A) || code == 0x2028 || code == 0x2029 ||
    code == 0x202F || code == 0x205F || code == 0x3000

/-- The text without the blanks at its beginning and its end. -/
def strip (text : List Char) : List Char :=
  ((text.dropWhile isBlank).reverse.dropWhile isBlank).reverse

/-- Cut a text into its maximal runs of characters that are not blank.  The
run being read is kept back to front. -/
def wordsAfter : (run : List Char) → List Char → List (List Char)
  | [], [] => []
  | run, [] => [run.reverse]
  | run, c :: rest =>
    if isBlank c then
      if run.isEmpty then wordsAfter [] rest else run.reverse :: wordsAfter [] rest
    else wordsAfter (c :: run) rest

/-- The words of a text, in order. -/
def words (text : List Char) : List (List Char) :=
  wordsAfter [] text

/-! ## Tables of characters

A property of characters that no formula describes is given by a table: the
closed ranges of code points that have it, in increasing order.
-/

/-- Closed ranges of code points, lower end first. -/
abbrev CharTable := List (Nat × Nat)

namespace CharTable

/-- A character belongs to a table when its code point lies in one of the ranges. -/
def contains (table : CharTable) (c : Char) : Bool :=
  table.any fun range => range.1 ≤ c.toNat && c.toNat ≤ range.2

end CharTable

end Text
end TestQuery
