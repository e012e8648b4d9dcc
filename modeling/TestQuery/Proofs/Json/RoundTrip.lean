import TestQuery.Json.Writer
import TestQuery.Proofs.Json.Fields
import TestQuery.Proofs.Json.Meaning

namespace TestQuery
namespace Json

/-!
# Written values are read back

What is written of a value on one line means the value, for all values that hold no doubles and
are not nested too deep.  Doubles are left out because reading them rounds.  The argument follows
the value: a whole number is the numeral of its digits, and the items of an array or an object are
joined as the grammar joins them.
-/

/-! ## Values without doubles -/

/-- A value without doubles, as it is held: whole numbers fit a word of 64 bits with or without a
sign, and an object has its keys in increasing order. -/
inductive Plain : Json → Prop where
  | null : Plain .null
  | bool (value : Bool) : Plain (.bool value)
  | int {value : Int} (low : minInt64 ≤ value) (high : value ≤ maxNat64) : Plain (.int value)
  | string (text : String) : Plain (.string text)
  | array {items : List Json} (plainItems : ∀ item ∈ items, Plain item) : Plain (.array items)
  | object {fields : List (String × Json)} (ordered : Ordered fields)
      (plainValues : ∀ field ∈ fields, Plain field.2) : Plain (.object fields)

mutual

/-- How deep arrays and objects are nested. -/
def nesting : Json → Nat
  | .array items => nestingOfItems items + 1
  | .object fields => nestingOfFields fields + 1
  | _ => 0

def nestingOfItems : List Json → Nat
  | [] => 0
  | item :: others => max (nesting item) (nestingOfItems others)

def nestingOfFields : List (String × Json) → Nat
  | [] => 0
  | (_, value) :: others => max (nesting value) (nestingOfFields others)

end

theorem nesting_le_of_mem {items : List Json} {item : Json} (member : item ∈ items) :
    item.nesting ≤ nestingOfItems items := by
  induction items with
  | nil => cases member
  | cons first items inductionHypothesis =>
      rw [nestingOfItems]
      rcases List.mem_cons.mp member with rfl | later
      · exact Nat.le_max_left _ _
      · exact Nat.le_trans (inductionHypothesis later) (Nat.le_max_right _ _)

theorem nestingOfFields_eq (fields : List (String × Json)) :
    nestingOfFields fields = nestingOfItems (fields.map Prod.snd) := by
  induction fields with
  | nil => rfl
  | cons field fields inductionHypothesis =>
      rw [nestingOfFields, inductionHypothesis, List.map_cons, nestingOfItems]

theorem nesting_le_of_mem_fields {fields : List (String × Json)} {field : String × Json}
    (member : field ∈ fields) : field.2.nesting ≤ nestingOfFields fields := by
  rw [nestingOfFields_eq]
  exact nesting_le_of_mem (List.mem_map_of_mem member)

/-! ## Whole numbers -/

/-- The number with digits appended to it. -/
def decimalAfter (value : Nat) (digits : List Char) : Nat :=
  digits.foldl (fun value digit => value * 10 + (digit.toNat - '0'.toNat)) value

theorem le_decimalAfter (value : Nat) (digits : List Char) : value ≤ decimalAfter value digits := by
  induction digits generalizing value with
  | nil => exact Nat.le_refl value
  | cons digit digits inductionHypothesis =>
      have next := inductionHypothesis (value * 10 + (digit.toNat - '0'.toNat))
      exact Nat.le_trans (by omega) next

/-- Digits that a word can hold are all kept. -/
theorem absorb_of_le {value : Nat} {digits : List Char}
    (fits : decimalAfter value digits ≤ maxNat64) :
    absorb value digits = (decimalAfter value digits, digits.length) := by
  induction digits generalizing value with
  | nil => rfl
  | cons digit digits inductionHypothesis =>
      have held : value * 10 + (digit.toNat - '0'.toNat) ≤ maxNat64 :=
        Nat.le_trans (le_decimalAfter _ digits) fits
      rw [absorb, if_pos held, inductionHypothesis fits]
      rfl

theorem absorb_toDigits {value : Nat} (fits : value ≤ maxNat64) :
    absorb 0 (Nat.toDigits 10 value) = (value, (Nat.toDigits 10 value).length) := by
  have whole : decimalAfter 0 (Nat.toDigits 10 value) = value := Text.decimalValue_toDigits value
  rw [absorb_of_le (whole.symm ▸ fits), whole]

/-- The digits of a number do not begin with a zero, unless it is zero. -/
theorem head_toDigits_ne {value : Nat} (positive : 0 < value) :
    (Nat.toDigits 10 value).head? ≠ some '0' := by
  induction value using Nat.strongRecOn with
  | ind value inductionHypothesis =>
      rw [Nat.toDigits_eq_if (by decide)]
      split
      · rename_i single
        have digits : ∀ digit : Fin 10, 0 < digit.val → digit.val.digitChar ≠ '0' := by decide
        intro zero
        exact digits ⟨value, single⟩ positive (Option.some.inj zero)
      · intro zero
        rw [List.head?_append] at zero
        rcases Option.or_eq_some_iff.mp zero with first | ⟨nothing, -⟩
        · exact inductionHypothesis (value / 10) (by omega) (by omega) first
        · exact Nat.toDigits_ne_nil (List.head?_eq_none_iff.mp nothing)

theorem numeralOf_toDigits (negative : Bool) (value : Nat) :
    NumeralOf negative (Nat.toDigits 10 value) ⟨negative, Nat.toDigits 10 value, none, none⟩ := by
  have digits : IsDigits (Nat.toDigits 10 value) :=
    ⟨Nat.toDigits_ne_nil, fun c member =>
      Nat.isDigit_of_mem_toDigits (by decide) (by decide) member⟩
  have noZero : (Nat.toDigits 10 value).head? = some '0' → Nat.toDigits 10 value = ['0'] := by
    intro zero
    rcases Nat.eq_zero_or_pos value with rfl | positive
    · rfl
    · exact absurd zero (head_toDigits_ne positive)
  have numeral := @NumeralOf.mk negative _ _ _ _ _ digits noZero .absent .absent
  rwa [List.append_nil, List.append_nil] at numeral

/-- A whole number is written by its digits. -/
theorem scalar_int {value : Int} (low : minInt64 ≤ value) (high : value ≤ maxNat64) :
    Scalar (toString value).toList (.int value) := by
  cases value with
  | ofNat number =>
      have fits : number ≤ maxNat64 := Int.ofNat_le.mp high
      have text : (toString (Int.ofNat number)).toList = Nat.toDigits 10 number :=
        String.toList_ofList
      rw [text]
      apply Scalar.number (numeralOf_toDigits false number)
      simp [Numeral.value?, absorb_toDigits fits]
  | negSucc number =>
      have bound : number + 1 ≤ Nat.pow 2 63 := by
        have power : Int.pow 2 63 = (Nat.pow 2 63 : Nat) := rfl
        rw [minInt64, power, Int.negSucc_eq] at low
        omega
      have fits : number + 1 ≤ maxNat64 := Nat.le_trans bound (by decide)
      have text : (toString (Int.negSucc number)).toList = '-' :: Nat.toDigits 10 (number + 1) := by
        change ("-" ++ Nat.repr (number + 1)).toList = _
        rw [String.toList_append]
        exact congrArg ('-' :: ·) String.toList_ofList
      rw [text]
      apply Scalar.negative (numeralOf_toDigits true (number + 1))
      simp [Numeral.value?, absorb_toDigits fits, bound, Int.negSucc_eq]

/-! ## Arrays and objects -/

theorem compactItems_eq_map (items : List Json) : compactItems items = items.map compact := by
  induction items with
  | nil => rfl
  | cons item items inductionHypothesis => rw [compactItems, inductionHypothesis, List.map_cons]

theorem compactFields_eq_map (fields : List (String × Json)) :
    compactFields fields =
      fields.map fun field => writtenString field.1 ++ ":" ++ compact field.2 := by
  induction fields with
  | nil => rfl
  | cons field fields inductionHypothesis => rw [compactFields, inductionHypothesis, List.map_cons]

section

variable {α : Type} {form : List Char → α → Prop} (keyed : Bool)

/-- Texts of items with commas between them. -/
theorem listed_joined {write : α → String} {items : List α}
    (written : ∀ item ∈ items, form (write item).toList item) (nonempty : items ≠ []) :
    Listed keyed form ((joined "," (items.map write)).toList ++ [ending keyed]) items := by
  induction items with
  | nil => exact absurd rfl nonempty
  | cons item items inductionHypothesis =>
      rcases List.forall_mem_cons.mp written with ⟨isItem, areItems⟩
      cases items with
      | nil => exact .last isItem gap_nil
      | cons second others =>
          have listed := inductionHypothesis areItems (List.cons_ne_nil _ _)
          have shape :
              (joined "," ((item :: second :: others).map write)).toList ++ [ending keyed] =
              (write item).toList ++ ([] ++ ',' :: ([] ++
                ((joined "," ((second :: others).map write)).toList ++ [ending keyed]))) := by
            simp [joined]
          rw [shape]
          exact .more isItem gap_nil gap_nil listed

theorem enclosed_joined {write : α → String} {items : List α}
    (written : ∀ item ∈ items, form (write item).toList item) :
    Enclosed keyed form ((joined "," (items.map write)).toList ++ [ending keyed]) items := by
  by_cases nothing : items = []
  · subst nothing
    exact .nothing gap_nil
  · have listed := listed_joined keyed written nothing
    exact @Enclosed.items _ _ _ [] _ _ gap_nil listed

end

theorem denotes_array {items : List Json} {depth : Nat}
    (written : ∀ item ∈ items, Denotes depth item.compact.toList item) :
    Denotes (depth + 1) (Json.array items).compact.toList (.array items) := by
  have shape : (Json.array items).compact.toList =
      '[' :: ((joined "," (items.map compact)).toList ++ [ending false]) := by
    simp [compact, compactItems_eq_map, ending]
  rw [shape]
  exact .array (enclosed_joined false written)

theorem denotes_object {fields : List (String × Json)} (ordered : Ordered fields) {depth : Nat}
    (written : ∀ field ∈ fields, Denotes depth field.2.compact.toList field.2) :
    Denotes (depth + 1) (Json.object fields).compact.toList (.object fields) := by
  have shape : (Json.object fields).compact.toList = '\x7b' :: ((joined "," (fields.map fun field =>
      writtenString field.1 ++ ":" ++ compact field.2)).toList ++ [ending true]) := by
    simp [compact, compactFields_eq_map, ending]
  have members : ∀ field ∈ fields, MemberText (Denotes depth)
      (writtenString field.1 ++ ":" ++ compact field.2).toList field := by
    intro field member
    have isMember := MemberText.mk (quotedText_writtenString field.1) gap_nil gap_nil
      (written field member)
    simpa using isMember
  have object := Nested.object (enclosed_joined true members)
  rw [sortFields_of_ordered ordered] at object
  rw [shape]
  exact object

/-! ## Values -/

/-- What is written of a value means the value. -/
theorem Plain.denotes_compact {value : Json} (plain : Plain value) {depth : Nat}
    (room : value.nesting ≤ depth) : Denotes depth value.compact.toList value := by
  induction plain generalizing depth with
  | null => exact Scalar.null.denotes depth
  | bool value =>
      cases value with
      | true => exact Scalar.true.denotes depth
      | false => exact Scalar.false.denotes depth
  | int low high => exact (scalar_int low high).denotes depth
  | string text => exact (Scalar.string (quotedText_writtenString text)).denotes depth
  | @array items plainItems inductionHypothesis =>
      rw [nesting] at room
      cases depth with
      | zero => exact absurd room (Nat.not_succ_le_zero _)
      | succ depth =>
          apply denotes_array
          intro item member
          exact inductionHypothesis item member
            (Nat.le_trans (nesting_le_of_mem member) (Nat.le_of_succ_le_succ room))
  | @object fields ordered plainValues inductionHypothesis =>
      rw [nesting] at room
      cases depth with
      | zero => exact absurd room (Nat.not_succ_le_zero _)
      | succ depth =>
          apply denotes_object ordered
          intro field member
          exact inductionHypothesis field member
            (Nat.le_trans (nesting_le_of_mem_fields member) (Nat.le_of_succ_le_succ room))

theorem Plain.jsonText_compact {value : Json} (plain : Plain value) {depth : Nat}
    (room : value.nesting ≤ depth) : JsonText depth value.compact.toList value := by
  have jsonText := JsonText.mk gap_nil (plain.denotes_compact room) gap_nil
  rwa [List.append_nil] at jsonText

end Json
end TestQuery
