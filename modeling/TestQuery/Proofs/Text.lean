import TestQuery.Text
import Mathlib.Algebra.Group.Nat.Defs

namespace TestQuery
namespace Text

/-!
# Lengths and numerals

The length of a text in bytes adds up over its parts.  A numeral has the value of the number that
it was written for, and a run of digits is the padded numeral of its value.
-/

/-! ## Bytes -/

theorem byteLength_append (front back : List Char) :
    byteLength (front ++ back) = byteLength front + byteLength back := by
  induction front with
  | nil => exact (Nat.zero_add _).symm
  | cons c front inductionHypothesis =>
      change c.utf8Size + byteLength (front ++ back) = c.utf8Size + byteLength front + _
      rw [inductionHypothesis, Nat.add_assoc]

/-- What the characters take is the size of their UTF-8 form. -/
theorem byteLength_eq_size (characters : List Char) :
    byteLength characters = characters.utf8Encode.size := by
  induction characters with
  | nil => rfl
  | cons c characters inductionHypothesis =>
      have first : [c].utf8Encode.size = c.utf8Size := by
        rw [List.utf8Encode_singleton, List.size_toByteArray, String.length_utf8EncodeChar]
      rw [List.utf8Encode_cons, ByteArray.size_append, first, ← inductionHypothesis]
      rfl

theorem byteLength_pos {characters : List Char} (nonempty : characters ≠ []) :
    0 < byteLength characters := by
  cases characters with
  | nil => exact absurd rfl nonempty
  | cons c characters => exact Nat.lt_of_lt_of_le c.utf8Size_pos (Nat.le_add_right _ _)

/-! ## Numerals -/

/-- The digits of a number have its value. -/
theorem decimalValue_toDigits (value : Nat) : decimalValue (Nat.toDigits 10 value) = value := by
  have read : Nat.ofDigitChars 10 (Nat.toDigits 10 value) 0 = value :=
    Nat.ofDigitChars_ten_toDigits
  rw [Nat.ofDigitChars_eq_foldl] at read
  simpa only [decimalValue, Nat.mul_comm] using read

/-- The digit of a number below ten. -/
theorem digit_toNat {value : Nat} (small : value < 10) :
    (Char.ofNat ('0'.toNat + value)).toNat = '0'.toNat + value := by
  have all : ∀ value : Fin 10, (Char.ofNat ('0'.toNat + value)).toNat = '0'.toNat + value := by
    decide
  exact all ⟨value, small⟩

theorem decimalValue_concat (digits : List Char) (last : Char) :
    decimalValue (digits ++ [last]) = decimalValue digits * 10 + (last.toNat - '0'.toNat) := by
  rw [decimalValue, List.foldl_append]
  rfl

theorem isDigit_paddedDigits (width value : Nat) :
    ∀ digit ∈ paddedDigits width value, digit.isDigit = true := by
  induction width generalizing value with
  | zero => nofun
  | succ width inductionHypothesis =>
      intro digit member
      rcases List.mem_append.mp member with before | last
      · exact inductionHypothesis (value / 10) digit before
      · have small : value % 10 < 10 := Nat.mod_lt value (by decide)
        have number := digit_toNat small
        have nine : '9'.toNat = '0'.toNat + 9 := rfl
        rw [List.mem_singleton.mp last, Char.isDigit_iff_toNat, number, nine]
        omega

/-- A numeral that is wide enough is read back as its number. -/
theorem decimalValue_paddedDigits {width value : Nat} (fits : value < 10 ^ width) :
    decimalValue (paddedDigits width value) = value := by
  induction width generalizing value with
  | zero =>
      have zero : value = 0 := Nat.lt_one_iff.mp fits
      rw [zero]
      rfl
  | succ width inductionHypothesis =>
      have shorter : value / 10 < 10 ^ width := by
        rw [Nat.pow_succ] at fits
        exact Nat.div_lt_of_lt_mul (Nat.mul_comm _ _ ▸ fits)
      rw [paddedDigits, decimalValue_concat, inductionHypothesis shorter,
        digit_toNat (Nat.mod_lt value (by decide))]
      omega

/-- A run of digits is the numeral of its value. -/
theorem paddedDigits_decimalValue {digits : List Char}
    (numeral : ∀ digit ∈ digits, digit.isDigit = true) :
    paddedDigits digits.length (decimalValue digits) = digits := by
  generalize widthEq : digits.length = width
  induction width generalizing digits with
  | zero =>
      rw [List.eq_nil_of_length_eq_zero widthEq]
      rfl
  | succ width inductionHypothesis =>
      have nonempty : digits ≠ [] := List.ne_nil_of_length_eq_add_one widthEq
      have split := List.dropLast_concat_getLast nonempty
      have lastDigit := Char.isDigit_iff_toNat.mp (numeral _ (List.getLast_mem nonempty))
      have nine : '9'.toNat = '0'.toNat + 9 := rfl
      have initial := inductionHypothesis
        (fun digit member => numeral digit ((List.dropLast_sublist digits).subset member))
        (by rw [List.length_dropLast, widthEq]; rfl)
      have before : decimalValue digits / 10 = decimalValue digits.dropLast := by
        rw [← split, decimalValue_concat, List.dropLast_concat]
        omega
      have last : '0'.toNat + decimalValue digits % 10 = (digits.getLast nonempty).toNat := by
        have value := decimalValue_concat digits.dropLast (digits.getLast nonempty)
        rw [split] at value
        omega
      rw [paddedDigits, before, initial, last, Char.ofNat_toNat, split]

theorem decimalValue_zeros (count : Nat) (digits : List Char) :
    decimalValue (List.replicate count '0' ++ digits) = decimalValue digits := by
  induction count with
  | zero => rfl
  | succ count inductionHypothesis => exact inductionHypothesis

/-- The decimal numeral of a number, with zeros before it up to the width. -/
def paddedNumeral (width value : Nat) : List Char :=
  (toString value).toList.leftpad width '0'

theorem paddedNumeral_eq (width value : Nat) :
    paddedNumeral width value = (Nat.toDigits 10 value).leftpad width '0' := by
  rw [paddedNumeral, Nat.toString_eq_repr, Nat.toList_repr]

/-- The last digits of a number are its whole numeral if that is no longer. -/
theorem paddedDigits_eq_paddedNumeral {width value : Nat} (positive : 0 < width)
    (fits : value < 10 ^ width) : paddedDigits width value = paddedNumeral width value := by
  rw [paddedNumeral_eq]
  have numeral : ∀ digit ∈ (Nat.toDigits 10 value).leftpad width '0', digit.isDigit = true := by
    intro digit member
    rcases List.mem_append.mp member with zero | digits
    · rw [List.eq_of_mem_replicate zero]
      rfl
    · exact Nat.isDigit_of_mem_toDigits (by decide) (by decide) digits
  have length : ((Nat.toDigits 10 value).leftpad width '0').length = width := by
    rw [List.length_leftpad]
    exact Nat.max_eq_left ((Nat.length_toDigits_le_iff (by decide) positive).mpr fits)
  have whole := paddedDigits_decimalValue numeral
  rw [length, List.leftpad, decimalValue_zeros, decimalValue_toDigits] at whole
  exact whole

/-! ## Hexadecimal digits -/

/-- The digits of the sixteen values. -/
theorem hexValue?_hexDigit {value : Nat} (small : value < 16) :
    hexValue? (hexDigit value) = some value := by
  have all : ∀ value : Fin 16, hexValue? (hexDigit value) = some value.val := by decide
  exact all ⟨value, small⟩

theorem halves_lt (byte : UInt8) : byte.toNat / 16 < 16 ∧ byte.toNat % 16 < 16 := by
  have bound := byte.toNat_lt
  omega

theorem isSome_hexValue?_of_mem_hexByte {byte : UInt8} {c : Char} (member : c ∈ hexByte byte) :
    (hexValue? c).isSome = true := by
  have halves := halves_lt byte
  simp only [hexByte, List.mem_cons, List.not_mem_nil, or_false] at member
  rcases member with rfl | rfl
  · rw [hexValue?_hexDigit halves.1, Option.isSome_some]
  · rw [hexValue?_hexDigit halves.2, Option.isSome_some]

theorem hexValue?_lt {c : Char} {value : Nat} (isDigit : hexValue? c = some value) :
    value < 16 := by
  have upTo {last : Char} (inRange : c ≤ last) : c.toNat ≤ last.toNat := inRange
  unfold hexValue? at isDigit
  split at isDigit
  · rename_i inRange
    have bound : c.toNat ≤ 57 := upTo inRange.2
    have zero : '0'.toNat = 48 := rfl
    cases isDigit
    omega
  · split at isDigit
    · rename_i inRange
      have bound : c.toNat ≤ 102 := upTo inRange.2
      have first : 'a'.toNat = 97 := rfl
      cases isDigit
      omega
    · split at isDigit
      · rename_i inRange
        have bound : c.toNat ≤ 70 := upTo inRange.2
        have first : 'A'.toNat = 65 := rfl
        cases isDigit
        omega
      · cases isDigit

end Text
end TestQuery
