import TestQuery.Proofs.Text
import TestQuery.Uuid.Reading

namespace TestQuery

/-!
# Written UUIDs

The hyphenated form of a UUID is read back as the UUID.  It is tried as 32 digits
first, and this has to fail: a hyphen is no digit.
-/

namespace Uuid

open Text

/-! ## Digits -/

theorem bytesOfDigits?_flatMap_hexByte (bytes : List UInt8) :
    bytesOfDigits? (bytes.flatMap hexByte) = some bytes := by
  induction bytes with
  | nil => rfl
  | cons byte bytes inductionHypothesis =>
      have halves := halves_lt byte
      have whole : UInt8.ofNat (byte.toNat / 16 * 16 + byte.toNat % 16) = byte := by
        rw [Nat.div_add_mod', UInt8.ofNat_toNat]
      simp only [List.flatMap_cons, hexByte, List.cons_append, List.nil_append, bytesOfDigits?,
        hexValue?_hexDigit halves.1, hexValue?_hexDigit halves.2, inductionHypothesis, bind,
        Option.bind_some, whole]
      rfl

/-- Only digits spell bytes. -/
theorem isSome_hexValue?_of_bytesOfDigits? {text : List Char} {bytes : List UInt8}
    (spelled : bytesOfDigits? text = some bytes) : ∀ c ∈ text, (hexValue? c).isSome = true := by
  fun_induction bytesOfDigits? text generalizing bytes with
  | case1 => nofun
  | case2 => cases spelled
  | case3 high low rest inductionHypothesis =>
      simp only [bind, Option.bind_eq_some_iff] at spelled
      obtain ⟨highValue, isHigh, lowValue, isLow, others, spelledOthers, -⟩ := spelled
      intro c member
      rcases List.mem_cons.mp member with rfl | member
      · rw [isHigh, Option.isSome_some]
      · rcases List.mem_cons.mp member with rfl | member
        · rw [isLow, Option.isSome_some]
        · exact inductionHypothesis spelledOthers c member

theorem length_digits (id : Uuid) : id.digits.length = 32 := by
  have two (bytes : List UInt8) : (bytes.flatMap hexByte).length = 2 * bytes.length := by
    induction bytes with
    | nil => rfl
    | cons byte bytes inductionHypothesis =>
        rw [List.flatMap_cons, List.length_append, inductionHypothesis, List.length_cons, hexByte]
        simp only [List.length_cons, List.length_nil]
        omega
  rw [digits, two, id.size]

theorem ofDigits?_digits (id : Uuid) : ofDigits? id.digits = some id := by
  rw [ofDigits?, digits, bytesOfDigits?_flatMap_hexByte, Option.bind_some, ofBytes?,
    dif_pos id.size]

/-! ## Hyphens -/

/-- The hyphens that were put in are taken out again, if all groups but the last are full. -/
theorem dropHyphens?_hyphenate {groups : List Nat} {digits : List Char}
    (enough : groups.foldr (· + ·) 0 ≤ digits.length) :
    dropHyphens? groups (hyphenate groups digits) = some digits := by
  induction groups generalizing digits with
  | nil => rfl
  | cons size groups inductionHypothesis =>
      rw [List.foldr_cons] at enough
      have full : (digits.take size).length = size := by
        rw [List.length_take]
        omega
      have later : dropHyphens? groups (hyphenate groups (digits.drop size)) =
          some (digits.drop size) := by
        apply inductionHypothesis
        rw [List.length_drop]
        omega
      rw [hyphenate, dropHyphens?, List.drop_left' full, List.take_left' full]
      simp only [later, Option.map_some, List.take_append_drop]

theorem mem_hyphenate {groups : List Nat} {digits : List Char} {c : Char}
    (member : c ∈ hyphenate groups digits) : c ∈ digits ∨ c = '-' := by
  induction groups generalizing digits with
  | nil => exact .inl member
  | cons size groups inductionHypothesis =>
      rw [hyphenate, List.mem_append, List.mem_cons] at member
      rcases member with before | hyphen | later
      · exact .inl (List.mem_of_mem_take before)
      · exact .inr hyphen
      · rcases inductionHypothesis later with digit | hyphen
        · exact .inl (List.mem_of_mem_drop digit)
        · exact .inr hyphen

/-- A UUID is written with digits and hyphens only. -/
theorem mem_toString {id : Uuid} {c : Char} (member : c ∈ id.toString.toList) :
    (hexValue? c).isSome = true ∨ c = '-' := by
  rw [Uuid.toString, String.toList_ofList] at member
  rcases mem_hyphenate member with digit | hyphen
  · obtain ⟨byte, -, inByte⟩ := List.mem_flatMap.mp digit
    exact .inl (isSome_hexValue?_of_mem_hexByte inByte)
  · exact .inr hyphen

/-- What is written for a UUID is read as it. -/
theorem ofText?_toString (id : Uuid) : ofText? id.toString.toList = some id := by
  rw [Uuid.toString, String.toList_ofList]
  have hyphenated : ofHyphenated? (hyphenate [8, 4, 4, 4] id.digits) = some id := by
    have enough : [8, 4, 4, 4].foldr (· + ·) 0 ≤ id.digits.length := by
      rw [length_digits]
      decide
    rw [ofHyphenated?, dropHyphens?_hyphenate enough, Option.bind_some, ofDigits?_digits]
  have noDigits : ofDigits? (hyphenate [8, 4, 4, 4] id.digits) = none := by
    rw [ofDigits?, Option.bind_eq_none_iff]
    intro bytes spelled
    have hyphen : '-' ∈ hyphenate [8, 4, 4, 4] id.digits := by
      rw [hyphenate]
      exact List.mem_append_right _ List.mem_cons_self
    cases isSome_hexValue?_of_bytesOfDigits? spelled '-' hyphen
  rw [ofText?, noDigits, hyphenated]
  rfl

end Uuid
end TestQuery
