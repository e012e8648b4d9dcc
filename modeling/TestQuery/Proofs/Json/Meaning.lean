import TestQuery.Proofs.Json.Skipping
import TestQuery.Proofs.Json.Taken

namespace TestQuery
namespace Json

/-!
# What JSON texts mean

The texts of values together with the values that they mean, for each depth to which values may
be nested.  The reader of values gives exactly this meaning: what has one is read as it, up to its
end, and what is read has the meaning that was read.  Both halves go down the depth together; a
reader of items or of members is as exact as the reader of the values in them.
-/

/-! ## Texts of values -/

/-- The texts of values in which nothing is nested. -/
inductive Scalar : List Char → Json → Prop where
  | null : Scalar ['n', 'u', 'l', 'l'] .null
  | true : Scalar ['t', 'r', 'u', 'e'] (.bool true)
  | false : Scalar ['f', 'a', 'l', 's', 'e'] (.bool false)
  | string {text : List Char} {content : String} (quoted : QuotedText text content) :
      Scalar text (.string content)
  | number {text : List Char} {numeral : Numeral} {value : Json}
      (parts : NumeralOf false text numeral) (held : numeral.value? = some value) :
      Scalar text value
  | negative {text : List Char} {numeral : Numeral} {value : Json}
      (parts : NumeralOf true text numeral) (held : numeral.value? = some value) :
      Scalar ('-' :: text) value

/-- One item or more, with commas between them, up to the mark that ends them. -/
inductive Listed {α : Type} (keyed : Bool) (form : List Char → α → Prop) :
    List Char → List α → Prop where
  | last {text after : List Char} {item : α} (isItem : form text item) (blank : Gap after) :
      Listed keyed form (text ++ (after ++ [ending keyed])) [item]
  | more {text after before others : List Char} {item : α} {items : List α}
      (isItem : form text item) (blankAfter : Gap after) (blankBefore : Gap before)
      (isOthers : Listed keyed form others items) :
      Listed keyed form (text ++ (after ++ ',' :: (before ++ others))) (item :: items)

/-- What follows the mark that opens an array or an object. -/
inductive Enclosed {α : Type} (keyed : Bool) (form : List Char → α → Prop) :
    List Char → List α → Prop where
  | nothing {gap : List Char} (blank : Gap gap) : Enclosed keyed form (gap ++ [ending keyed]) []
  | items {gap text : List Char} {items : List α} (blank : Gap gap)
      (listed : Listed keyed form text items) : Enclosed keyed form (gap ++ text) items

inductive MemberText (form : List Char → Json → Prop) : List Char → String × Json → Prop where
  | mk {quoted between before text : List Char} {key : String} {value : Json}
      (isKey : QuotedText quoted key) (blankBetween : Gap between) (blankBefore : Gap before)
      (isValue : form text value) :
      MemberText form (quoted ++ (between ++ ':' :: (before ++ text))) (key, value)

/-- The texts of values in which values of the form are nested.  Of members with the same key the
last one counts. -/
inductive Nested (form : List Char → Json → Prop) : List Char → Json → Prop where
  | scalar {text : List Char} {value : Json} (isScalar : Scalar text value) : Nested form text value
  | array {text : List Char} {items : List Json} (enclosed : Enclosed false form text items) :
      Nested form ('[' :: text) (.array items)
  | object {text : List Char} {fields : List (String × Json)}
      (enclosed : Enclosed true (MemberText form) text fields) :
      Nested form ('\x7b' :: text) (.object (sortFields fields))

/-- The text means the value, in which arrays and objects are nested to at most the depth. -/
def Denotes : (depth : Nat) → List Char → Json → Prop
  | 0 => Scalar
  | depth + 1 => Nested (Denotes depth)

/-- The JSON texts of a value, with layout around them. -/
inductive JsonText (depth : Nat) : List Char → Json → Prop where
  | mk {before text after : List Char} {value : Json} (blankBefore : Gap before)
      (denotes : Denotes depth text value) (blankAfter : Gap after) :
      JsonText depth (before ++ (text ++ after)) value

theorem Scalar.denotes {text : List Char} {value : Json} (isScalar : Scalar text value)
    (depth : Nat) : Denotes depth text value := by
  cases depth with
  | zero => exact isScalar
  | succ depth => exact .scalar isScalar

/-! ## Exact readers -/

/-- After layout, the reader reads the texts of the form as what they mean, and nothing else. -/
structure ReadsForm {α : Type} (reader : TextConsumer α) (form : List Char → α → Prop) : Prop where
  begins : ∀ text result, form text result → Begins text
  complete : ∀ gap text rest result, Gap gap → form text result → EndsValue rest →
    reader.run (gap ++ (text ++ rest)) = .ok (result, rest)
  sound : ∀ input rest result, reader.run input = .ok (result, rest) →
    ∃ gap text, Gap gap ∧ form text result ∧ input = gap ++ (text ++ rest)

theorem Gap.append {first second : List Char} (blank : Gap first) (blankSecond : Gap second) :
    Gap (first ++ second) := by
  intro c member
  rcases List.mem_append.mp member with early | late
  · exact blank c early
  · exact blankSecond c late

/-! ## Items -/

section

variable {α : Type} {reader : TextConsumer α} {form : List Char → α → Prop} {keyed : Bool}

theorem another_taken {input rest : List Char} {answer : Bool}
    (success : (another (ending keyed)).run input = .ok (answer, rest)) :
    ∃ gap, Gap gap ∧ input = gap ++ (if answer then ',' else ending keyed) :: rest := by
  rcases afterLayout_taken success with ⟨gap, c, blank, rfl, accepted⟩
  refine ⟨gap, blank, ?_⟩
  split at accepted
  · rename_i isComma
    cases accepted
    rw [isComma]
    rfl
  · split at accepted
    · rename_i isEnding
      cases accepted
      rw [isEnding]
      rfl
    · cases accepted

theorem Listed.separated (reads : ReadsForm reader form) {text : List Char} {items : List α}
    (listed : Listed keyed form text items) {gap : List Char} (blank : Gap gap) (rest : List Char) :
    Reader.Separated reader (another (ending keyed)).toReader (gap ++ (text ++ rest)) items
      rest := by
  induction listed generalizing gap with
  | @last text after item isItem blankAfter =>
      have read := reads.complete gap text (after ++ ending keyed :: rest) item blank isItem
        (endsValue_gap blankAfter (.inr rfl) rest)
      have ends := (takes_another blankAfter keyed).2 rest
      rw [List.append_assoc] at ends
      have shape : text ++ (after ++ [ending keyed]) ++ rest =
          text ++ (after ++ ending keyed :: rest) := by
        simp
      rw [shape]
      exact .last read ends
  | @more text after before others item items isItem blankAfter blankBefore isOthers
      inductionHypothesis =>
      have read := reads.complete gap text (after ++ ',' :: (before ++ (others ++ rest))) item blank
        isItem (@endsValue_gap after blankAfter keyed ',' (.inl rfl) _)
      have continues := (takes_another blankAfter keyed).1 (before ++ (others ++ rest))
      rw [List.append_assoc] at continues
      have shape : text ++ (after ++ ',' :: (before ++ others)) ++ rest =
          text ++ (after ++ ',' :: (before ++ (others ++ rest))) := by
        simp
      rw [shape]
      exact .more read continues (inductionHypothesis blankBefore)

theorem listed_of_separated (reads : ReadsForm reader form) {input rest : List Char}
    {items : List α}
    (separated : Reader.Separated reader (another (ending keyed)).toReader input items rest) :
    ∃ gap text, Gap gap ∧ Listed keyed form text items ∧ input = gap ++ (text ++ rest) := by
  induction separated with
  | last success ends =>
      rcases another_taken ends with ⟨after, blankAfter, rfl⟩
      rcases reads.sound _ _ _ success with ⟨gap, text, blank, isItem, rfl⟩
      refine ⟨gap, _, blank, .last isItem blankAfter, ?_⟩
      simp
  | more success continues separated inductionHypothesis =>
      rcases inductionHypothesis with ⟨before, others, blankBefore, isOthers, rfl⟩
      rcases another_taken continues with ⟨after, blankAfter, rfl⟩
      rcases reads.sound _ _ _ success with ⟨gap, text, blank, isItem, rfl⟩
      refine ⟨gap, _, blank, .more isItem blankAfter blankBefore isOthers, ?_⟩
      simp

theorem Listed.begins (reads : ReadsForm reader form) {text : List Char} {items : List α}
    (listed : Listed keyed form text items) : Begins text := by
  cases listed with
  | last isItem blank => exact (reads.begins _ _ isItem).append _
  | more isItem blankAfter blankBefore isOthers => exact (reads.begins _ _ isItem).append _

/-- Items are read exactly where their own reader is exact. -/
theorem run_items_iff (reads : ReadsForm reader form) {input rest : List Char} {results : List α} :
    (items (ending keyed) reader).run input = .ok (results, rest) ↔
      ∃ text, Enclosed keyed form text results ∧ input = text ++ rest := by
  constructor
  · intro success
    rcases Reader.run_bind_eq_ok_iff.mp success with ⟨_, between, skipped, itemsRead⟩
    rcases layout_taken skipped with ⟨gap, blank, rfl⟩
    rw [Reader.run_bind_of_ok (Reader.run_peek _)] at itemsRead
    split at itemsRead
    · rename_i isEnding
      rcases Reader.run_bind_eq_ok_iff.mp itemsRead with ⟨c, following, first, done⟩
      rw [anyChar_taken first] at isEnding ⊢
      cases isEnding
      cases done
      refine ⟨_, .nothing blank, ?_⟩
      simp
    · rcases listed_of_separated reads (Reader.separatedRun_eq_ok_iff.mp itemsRead) with
        ⟨before, text, blankBefore, listed, rfl⟩
      refine ⟨_, .items (blank.append blankBefore) listed, ?_⟩
      simp
  · rintro ⟨text, enclosed, rfl⟩
    cases enclosed with
    | nothing blank =>
        rw [List.append_assoc]
        exact run_items_empty reader blank keyed rest
    | @items gap text items blank listed =>
        rw [List.append_assoc, run_items reader blank keyed ((listed.begins reads).append rest)]
        exact Reader.separatedRun_eq_ok_iff.mpr (listed.separated reads gap_nil rest)

end

/-! ## Members -/

theorem readsForm_member {reader : TextConsumer Json} {form : List Char → Json → Prop}
    (reads : ReadsForm reader form) : ReadsForm (member .exact reader) (MemberText form) where
  begins := by
    rintro _ _ ⟨⟨isBody⟩, -, -, -⟩
    exact begins_cons rfl (by decide) (by decide) _
  complete := by
    rintro gap _ rest _ blank ⟨⟨isBody⟩, blankBetween, blankBefore, isValue⟩ ends
    rename_i between before text value body content
    have shape : gap ++ ('"' :: body ++ (between ++ ':' :: (before ++ text)) ++ rest) =
        gap ++ ('"' :: (body ++ (between ++ ':' :: (before ++ (text ++ rest))))) := by
      simp
    rw [shape]
    exact run_member_value (fun _ _ => takes_escape) isBody blank blankBetween
      (reads.complete before text rest _ blankBefore isValue ends)
  sound := by
    intro input rest result success
    rcases Reader.run_bind_eq_ok_iff.mp success with ⟨_, afterQuote, quote, keyRead⟩
    rcases Reader.run_bind_eq_ok_iff.mp keyRead with ⟨key, afterKey, isKey, colonRead⟩
    rcases Reader.run_bind_eq_ok_iff.mp colonRead with ⟨_, afterColon, colon, valueRead⟩
    rcases Reader.run_bind_eq_ok_iff.mp valueRead with ⟨value, _, isValue, done⟩
    cases done
    rcases reads.sound _ _ _ isValue with ⟨before, text, blankBefore, form, rfl⟩
    rcases mark_taken colon with ⟨between, blankBetween, rfl⟩
    rcases string_taken isKey with ⟨body, quoted, rfl⟩
    rcases mark_taken quote with ⟨gap, blank, rfl⟩
    refine ⟨gap, _, blank, .mk quoted blankBetween blankBefore form, ?_⟩
    simp

/-! ## Values -/

theorem value_taken {leaves : Leaves} {depth : Nat} {input rest : List Char} {result : Json}
    (success : (value leaves depth).run input = .ok (result, rest)) :
    ∃ gap c following, Gap gap ∧ input = gap ++ c :: following ∧
      (valueFrom leaves (inner leaves depth) c).run (c :: following) = .ok (result, rest) := by
  have chosen : ∃ between, layout.run input = .ok ((), between) ∧
      (Consumer.choose .truncated (valueFrom leaves (inner leaves depth))).run between =
        .ok (result, rest) := by
    cases depth <;>
      rcases Reader.run_bind_eq_ok_iff.mp success with ⟨_, between, skipped, read⟩ <;>
      exact ⟨between, skipped, read⟩
  rcases chosen with ⟨between, skipped, read⟩
  rcases layout_taken skipped with ⟨gap, blank, rfl⟩
  cases between with
  | nil => cases read
  | cons c following => exact ⟨gap, c, following, blank, rfl, read⟩

theorem Scalar.begins {text : List Char} {value : Json} (isScalar : Scalar text value) :
    Begins text := by
  cases isScalar with
  | null => exact begins_cons rfl (by decide) (by decide) _
  | true => exact begins_cons rfl (by decide) (by decide) _
  | false => exact begins_cons rfl (by decide) (by decide) _
  | string quoted =>
      cases quoted
      exact begins_cons rfl (by decide) (by decide) _
  | number parts held =>
      rcases parts.first with ⟨c, rest, rfl, isDigit⟩
      exact begins_digit isDigit rest
  | negative parts held => exact begins_cons rfl (by decide) (by decide) _

/-- A value in which nothing is nested is read at any depth. -/
theorem Scalar.run_value {text : List Char} {result : Json} (isScalar : Scalar text result)
    (depth : Nat) {gap rest : List Char} (blank : Gap gap) (ends : EndsValue rest) :
    (value .exact depth).run (gap ++ (text ++ rest)) = .ok (result, rest) := by
  cases isScalar with
  | null => exact (Json.run_value .exact depth blank rfl _).trans rfl
  | true => exact (Json.run_value .exact depth blank rfl _).trans rfl
  | false => exact (Json.run_value .exact depth blank rfl _).trans rfl
  | string quoted =>
      cases quoted with
      | mk isBody => exact run_value_string (fun _ _ => takes_escape) isBody depth blank rest
  | number parts held =>
      have read := run_number parts held ends.endsNumber
      rcases parts.first with ⟨c, others, rfl, isDigit⟩
      rcases begins_digit isDigit others with ⟨_, _, ⟨⟩, solid, -⟩
      rw [List.cons_append, Json.run_value .exact depth blank solid, valueFrom_digit _ _ isDigit]
      exact read
  | negative parts held =>
      apply (Json.run_value .exact depth blank rfl _).trans
      exact (Reader.run_bind_of_ok (takes_anyChar '-' _)).trans
        (run_number parts held ends.endsNumber)

theorem constant_taken {first : Char} {others : List Char} {meaning : Json} {input rest : List Char}
    {result : Json} (success : (constant first others meaning).run input = .ok (result, rest)) :
    result = meaning ∧ input = first :: (others ++ rest) := by
  rcases Reader.run_bind_eq_ok_iff.mp success with ⟨_, following, isFirst, othersRead⟩
  rcases Reader.run_bind_eq_ok_iff.mp othersRead with ⟨_, _, isOthers, done⟩
  cases done
  rw [exactly_taken isFirst, word_taken isOthers]
  exact ⟨rfl, rfl⟩

theorem items_taken {α : Type} {close c : Char} {item : TextConsumer α} {make : List α → Json}
    {following rest : List Char} {result : Json}
    (success : (anyChar.andThen fun _ => do
      let elements ← items close item
      return make elements).run (c :: following) = .ok (result, rest)) :
    ∃ elements, (items close item).run following = .ok (elements, rest) ∧
      result = make elements := by
  rcases Reader.run_bind_eq_ok_iff.mp success with ⟨mark, afterMark, first, itemsRead⟩
  rcases Reader.run_bind_eq_ok_iff.mp itemsRead with ⟨elements, _, read, done⟩
  cases done
  cases anyChar_taken first
  exact ⟨elements, read, rfl⟩

/-- What can be read from its first character on: a value in which nothing is nested, or an array
or an object, where values may be nested. -/
inductive FromFirst (inner : Option (Unit → TextConsumer Json)) (c : Char)
    (following rest : List Char) : Json → Prop where
  | scalar {text : List Char} {result : Json} (isScalar : Scalar text result)
      (taken : c :: following = text ++ rest) : FromFirst inner c following rest result
  | array {nested : Unit → TextConsumer Json} {elements : List Json} (given : inner = some nested)
      (opens : c = '[') (read : (items ']' (nested ())).run following = .ok (elements, rest)) :
      FromFirst inner c following rest (.array elements)
  | object {nested : Unit → TextConsumer Json} {fields : List (String × Json)}
      (given : inner = some nested) (opens : c = '\x7b')
      (read : (items '\x7d' (member .exact (nested ()))).run following = .ok (fields, rest)) :
      FromFirst inner c following rest (.object (sortFields fields))

theorem valueFrom_taken {inner : Option (Unit → TextConsumer Json)} {c : Char}
    {following rest : List Char} {result : Json}
    (success : (valueFrom .exact inner c).run (c :: following) = .ok (result, rest)) :
    FromFirst inner c following rest result := by
  unfold valueFrom at success
  split at success
  · rcases constant_taken success with ⟨rfl, taken⟩
    exact .scalar .null taken
  split at success
  · rcases constant_taken success with ⟨rfl, taken⟩
    exact .scalar .true taken
  split at success
  · rcases constant_taken success with ⟨rfl, taken⟩
    exact .scalar .false taken
  split at success
  · rename_i isQuote
    rcases Reader.run_bind_eq_ok_iff.mp success with ⟨quote, afterQuote, first, stringRead⟩
    rcases Reader.run_bind_eq_ok_iff.mp stringRead with ⟨text, _, isString, done⟩
    cases done
    cases anyChar_taken first
    rcases string_taken isString with ⟨body, quoted, rfl⟩
    exact .scalar (.string quoted) (by rw [isQuote]; rfl)
  split at success
  · rename_i isMinus
    rcases Reader.run_bind_eq_ok_iff.mp success with ⟨sign, afterSign, first, numberRead⟩
    cases anyChar_taken first
    rcases number_taken numberRead with ⟨text, numeral, parts, held, rfl⟩
    exact .scalar (.negative parts held) (by rw [isMinus]; rfl)
  split at success
  · rcases number_taken success with ⟨text, numeral, parts, held, taken⟩
    exact .scalar (.number parts held) taken
  cases inner with
  | none => cases success
  | some nested =>
      dsimp only at success
      split at success
      · rename_i opens
        rcases items_taken success with ⟨elements, read, rfl⟩
        exact .array rfl opens read
      split at success
      · rename_i opens
        rcases items_taken success with ⟨fields, read, rfl⟩
        exact .object rfl opens read
      · cases success

theorem readsForm_scalar : ReadsForm (value .exact 0) Scalar where
  begins text result isScalar := isScalar.begins
  complete gap text rest result blank isScalar ends := isScalar.run_value 0 blank ends
  sound := by
    intro input rest result success
    rcases value_taken success with ⟨gap, c, following, blank, rfl, read⟩
    cases valueFrom_taken read with
    | scalar isScalar taken =>
        rw [taken]
        exact ⟨gap, _, blank, isScalar, rfl⟩
    | array given => cases given
    | object given => cases given

/-- Where values are read exactly, those are in which they are nested. -/
theorem readsForm_nested {depth : Nat} {form : List Char → Json → Prop}
    (reads : ReadsForm (value .exact depth) form) :
    ReadsForm (value .exact (depth + 1)) (Nested form) where
  begins := by
    intro text result nested
    cases nested with
    | scalar isScalar => exact isScalar.begins
    | array => exact begins_cons rfl (by decide) (by decide) _
    | object => exact begins_cons rfl (by decide) (by decide) _
  complete := by
    intro gap text rest result blank nested ends
    cases nested with
    | scalar isScalar => exact isScalar.run_value (depth + 1) blank ends
    | array enclosed =>
        apply (run_value .exact (depth + 1) blank rfl _).trans
        apply (Reader.run_bind_of_ok (takes_anyChar '[' _)).trans
        exact Reader.run_bind_of_ok ((run_items_iff reads).mpr ⟨_, enclosed, rfl⟩)
    | object enclosed =>
        apply (run_value .exact (depth + 1) blank rfl _).trans
        apply (Reader.run_bind_of_ok (takes_anyChar '\x7b' _)).trans
        exact Reader.run_bind_of_ok
          ((run_items_iff (readsForm_member reads)).mpr ⟨_, enclosed, rfl⟩)
  sound := by
    intro input rest result success
    rcases value_taken success with ⟨gap, c, following, blank, rfl, read⟩
    cases valueFrom_taken read with
    | scalar isScalar taken =>
        rw [taken]
        exact ⟨gap, _, blank, .scalar isScalar, rfl⟩
    | array given opens itemsRead =>
        cases given
        rcases (@run_items_iff _ _ _ false reads _ _ _).mp itemsRead with ⟨text, enclosed, rfl⟩
        rw [opens]
        exact ⟨gap, _, blank, .array enclosed, rfl⟩
    | object given opens itemsRead =>
        cases given
        rcases (@run_items_iff _ _ _ true (readsForm_member reads) _ _ _).mp itemsRead with
          ⟨text, enclosed, rfl⟩
        rw [opens]
        exact ⟨gap, _, blank, .object enclosed, rfl⟩

theorem readsForm_value (depth : Nat) : ReadsForm (value .exact depth) (Denotes depth) := by
  induction depth with
  | zero => exact readsForm_scalar
  | succ depth inductionHypothesis => exact readsForm_nested inductionHypothesis

/-! ## Whole texts -/

/-- A text is read as a value if it is a JSON text of the value. -/
theorem read_eq_ok_iff {text : String} {result : Json} :
    read text = .ok result ↔ JsonText depthLimit text.toList result := by
  have reads := readsForm_value depthLimit
  constructor
  · intro success
    unfold read at success
    split at success
    · cases success
    · rename_i rest valueRead
      split at success
      · cases success
      · rename_i closed
        cases success
        rcases reads.sound _ _ _ valueRead with ⟨before, body, blankBefore, denotes, split⟩
        rw [split]
        exact .mk blankBefore denotes (closing_eq_ok_iff.mp closed)
  · intro jsonText
    unfold read
    generalize text.toList = characters at jsonText
    cases jsonText with
    | @mk before text after result blankBefore denotes blankAfter =>
        have ends : EndsValue after := by
          intro c isFirst
          exact .inl (blankAfter c (List.mem_of_mem_head? isFirst))
        rw [reads.complete before text after result blankBefore denotes ends]
        simp only [closing_eq_ok_iff.mpr blankAfter]

theorem read?_eq_some_iff {text : String} {result : Json} :
    read? text = some result ↔ JsonText depthLimit text.toList result := by
  rw [← read_eq_ok_iff, read?]
  cases read text <;> simp [Except.toOption]

end Json
end TestQuery
