import TestQuery.Proofs.Json.Grammar

namespace TestQuery
namespace Json

/-!
# Skipping values

A value that nobody asks for is skipped, whatever it is and however deep values are nested in
it: the reader stops exactly where the value ends.  The argument goes along the grammar, and the
depth that the reader is allowed is at least the length of the text that is left to it.
-/

/-! ## Single steps -/

/-- How deep the values nested in a value may be. -/
def inner (leaves : Leaves) : (depth : Nat) → Option (Unit → TextConsumer Json)
  | 0 => none
  | depth + 1 => some fun _ => value leaves depth

theorem run_value (leaves : Leaves) (depth : Nat) {gap : List Char} (blank : Gap gap) {c : Char}
    (solid : isLayout c = false) (rest : List Char) :
    (value leaves depth).run (gap ++ c :: rest) =
      (valueFrom leaves (inner leaves depth) c).run (c :: rest) := by
  cases depth <;>
    exact Reader.run_bind_of_ok (run_layout blank solid rest)

theorem takes_another {gap : List Char} (blank : Gap gap) (keyed : Bool) :
    (another (ending keyed)).toReader.Takes (gap ++ [',']) true ∧
      (another (ending keyed)).toReader.Takes (gap ++ [ending keyed]) false := by
  cases keyed <;> exact ⟨takes_afterLayout blank rfl rfl, takes_afterLayout blank rfl rfl⟩

theorem run_items_empty {α : Type} (item : TextConsumer α) {gap : List Char} (blank : Gap gap)
    (keyed : Bool) (rest : List Char) :
    (items (ending keyed) item).run (gap ++ ending keyed :: rest) = .ok ([], rest) := by
  have solid : isLayout (ending keyed) = false := by cases keyed <;> rfl
  rw [items, Reader.run_bind_of_ok (run_layout blank solid rest),
    Reader.run_bind_of_ok (Reader.run_peek _), List.head?_cons, if_pos rfl]
  rfl

theorem run_items {α : Type} (item : TextConsumer α) {gap : List Char} (blank : Gap gap)
    (keyed : Bool) {text : List Char} (begins : Begins text) :
    (items (ending keyed) item).run (gap ++ text) =
      Reader.separatedRun item (another (ending keyed)).toReader text := by
  rcases begins with ⟨c, rest, rfl, solid, noEnding⟩
  have notEmpty : some c ≠ some (ending keyed) := fun same => noEnding keyed (Option.some.inj same)
  rw [items, Reader.run_bind_of_ok (run_layout blank solid rest),
    Reader.run_bind_of_ok (Reader.run_peek _), List.head?_cons, if_neg notEmpty]
  rfl

section

variable {leaves : Leaves} {escapes : List Char → Char → Prop}

theorem run_value_string
    (takes : ∀ spelled c, escapes spelled c → leaves.escaped.Takes spelled c)
    {body content : List Char} (isBody : StringBody escapes body content) (depth : Nat)
    {gap : List Char} (blank : Gap gap) (rest : List Char) :
    (value leaves depth).run (gap ++ ('"' :: body ++ rest)) =
      .ok (.string (String.ofList content), rest) := by
  have meant : leaves.string.Takes body (String.ofList content) := takes_string takes isBody
  have read : (anyChar.toReader >>= fun _ => leaves.string >>= fun text =>
      pure (Json.string text)).Takes (['"'] ++ body) (.string (String.ofList content)) :=
    (takes_anyChar '"').bind (meant.bind_pure rfl)
  exact (run_value leaves depth blank rfl _).trans (read rest)

/-- A member is read where its key and its value are. -/
theorem run_member_value
    (takes : ∀ spelled c, escapes spelled c → leaves.escaped.Takes spelled c)
    {key content : List Char} (isKey : StringBody escapes key content)
    {gap between following rest : List Char} (blank : Gap gap) (blankBetween : Gap between)
    {value : TextConsumer Json} {result : Json} (read : value.run following = .ok (result, rest)) :
    (member leaves value).run (gap ++ ('"' :: (key ++ (between ++ ':' :: following)))) =
      .ok ((String.ofList content, result), rest) := by
  have quote : (afterLayout fun c => if c = '"' then some () else none).toReader.Takes
      (gap ++ ['"']) () := takes_afterLayout blank rfl rfl
  have meant : leaves.string.Takes key (String.ofList content) := takes_string takes isKey
  have colon : (afterLayout fun c => if c = ':' then some () else none).toReader.Takes
      (between ++ [':']) () := takes_afterLayout blankBetween rfl rfl
  have shape : gap ++ ('"' :: (key ++ (between ++ ':' :: following))) =
      (gap ++ ['"']) ++ (key ++ ((between ++ [':']) ++ following)) := by
    simp
  rw [shape]
  apply (Reader.run_bind_of_ok (quote _)).trans
  apply (Reader.run_bind_of_ok (meant _)).trans
  apply (Reader.run_bind_of_ok (colon _)).trans
  exact Reader.run_bind_of_ok read

end

/-- What is read of an item. -/
def Item : (keyed : Bool) → Type
  | false => Json
  | true => String × Json

def skippedItem (depth : Nat) : (keyed : Bool) → TextConsumer (Item keyed)
  | false => value .loose depth
  | true => member .loose (value .loose depth)

/-- The text is read up to its end, in a value that is skipped.  The layout behind an item is
left to what follows it. -/
def Skips (depth : Nat) : Phrase → List Char → Prop
  | .value, text => ∀ gap rest, Gap gap → EndsValue rest →
      ∃ result, (value .loose depth).run (gap ++ (text ++ rest)) = .ok (result, rest)
  | .item keyed, text => ∀ gap mark rest, Gap gap → mark = ',' ∨ mark = ending keyed →
      ∃ result after, Gap after ∧
        (skippedItem depth keyed).run (gap ++ (text ++ mark :: rest)) =
          .ok (result, after ++ mark :: rest)
  | .items keyed, text => ∀ gap rest, Gap gap → ∃ results,
      Reader.Separated (skippedItem depth keyed) (another (ending keyed)).toReader
        (gap ++ (text ++ ending keyed :: rest)) results rest

theorem endsValue_gap {gap : List Char} (blank : Gap gap) {keyed : Bool} {mark : Char}
    (isMark : mark = ',' ∨ mark = ending keyed) (rest : List Char) :
    EndsValue (gap ++ mark :: rest) := by
  rintro c isFirst
  cases gap with
  | cons first gap =>
      cases isFirst
      exact .inl (blank c List.mem_cons_self)
  | nil =>
      cases isFirst
      rcases isMark with rfl | rfl
      · exact .inr (.inl rfl)
      · cases keyed
        · exact .inr (.inr (.inl rfl))
        · exact .inr (.inr (.inr rfl))

theorem skips_constant {text : List Char} (listed : text ∈ constants) (depth : Nat) :
    Skips depth .value text := by
  intro gap rest blank ends
  simp only [constants, List.mem_cons, List.not_mem_nil, or_false] at listed
  rcases listed with rfl | rfl | rfl
  · exact ⟨.null, (run_value .loose depth blank rfl _).trans rfl⟩
  · exact ⟨.bool true, (run_value .loose depth blank rfl _).trans rfl⟩
  · exact ⟨.bool false, (run_value .loose depth blank rfl _).trans rfl⟩

theorem skips_string {body content : List Char} (isBody : StringBody LooseEscape body content)
    (depth : Nat) : Skips depth .value ('"' :: body) := by
  intro gap rest blank ends
  exact ⟨_, run_value_string (fun _ _ => takes_looseEscape) isBody depth blank rest⟩

theorem valueFrom_digit (leaves : Leaves) (inner : Option (Unit → TextConsumer Json)) {c : Char}
    (isDigit : c.isDigit = true) : valueFrom leaves inner c = leaves.unsigned false := by
  have apart {other : Char} (noDigit : other.isDigit = false) : c ≠ other :=
    ne_of_isDigit isDigit noDigit
  unfold valueFrom
  rw [if_neg (apart rfl), if_neg (apart rfl), if_neg (apart rfl), if_neg (apart rfl),
    if_neg (apart rfl), if_pos isDigit]

theorem skips_number {text : List Char} (isNumeral : NumeralText text) (depth : Nat) :
    Skips depth .value text := by
  intro gap rest blank ends
  refine ⟨.null, ?_⟩
  have read := run_looseNumber isNumeral ends.endsNumber false
  rcases isNumeral.first with ⟨c, others, rfl, isDigit⟩
  rcases begins_digit isDigit others with ⟨_, _, ⟨⟩, solid, -⟩
  rw [List.cons_append, run_value .loose depth blank solid, valueFrom_digit _ _ isDigit]
  exact read

theorem skips_negative {text : List Char} (isNumeral : NumeralText text) (depth : Nat) :
    Skips depth .value ('-' :: text) := by
  intro gap rest blank ends
  refine ⟨.null, (run_value .loose depth blank rfl _).trans ?_⟩
  exact (Reader.run_bind_of_ok (takes_anyChar '-' _)).trans
    (run_looseNumber isNumeral ends.endsNumber true)

/-- Where its items are skipped, an array or an object is. -/
theorem skips_enclosed {keyed : Bool} {inside : List Char} {depth : Nat}
    (read : ∀ rest, ∃ results, (items (ending keyed) (skippedItem depth keyed)).run
      (inside ++ rest) = .ok (results, rest)) :
    Skips (depth + 1) .value (opening keyed :: inside) := by
  intro gap rest blank ends
  rcases read rest with ⟨results, itemsRead⟩
  cases keyed with
  | false =>
      refine ⟨.array results, (run_value .loose (depth + 1) blank rfl _).trans ?_⟩
      apply (Reader.run_bind_of_ok (takes_anyChar '[' _)).trans
      exact Reader.run_bind_of_ok itemsRead
  | true =>
      refine ⟨.object (sortFields results), (run_value .loose (depth + 1) blank rfl _).trans ?_⟩
      apply (Reader.run_bind_of_ok (takes_anyChar '\x7b' _)).trans
      exact Reader.run_bind_of_ok itemsRead

theorem skips_empty (keyed : Bool) {gap : List Char} (blank : Gap gap) (depth : Nat) :
    Skips (depth + 1) .value (opening keyed :: (gap ++ [ending keyed])) := by
  apply skips_enclosed
  intro rest
  rw [List.append_assoc]
  exact ⟨[], run_items_empty _ blank keyed rest⟩

theorem skips_nested {keyed : Bool} {gap text : List Char} (blank : Gap gap) (begins : Begins text)
    {depth : Nat} (skips : Skips depth (.items keyed) text) :
    Skips (depth + 1) .value (opening keyed :: (gap ++ (text ++ [ending keyed]))) := by
  apply skips_enclosed
  intro rest
  rcases skips [] rest gap_nil with ⟨results, separated⟩
  rw [List.append_assoc, List.append_assoc, run_items _ blank keyed (begins.append _)]
  exact ⟨results, Reader.separatedRun_eq_ok_iff.mpr separated⟩

theorem skips_element {text after : List Char} {depth : Nat} (skips : Skips depth .value text)
    (blank : Gap after) : Skips depth (.item false) (text ++ after) := by
  intro gap mark rest blankBefore isMark
  rcases skips gap (after ++ mark :: rest) blankBefore (endsValue_gap blank isMark rest) with
    ⟨result, read⟩
  refine ⟨result, after, blank, ?_⟩
  rw [List.append_assoc]
  exact read

theorem skips_member {key content between before text after : List Char}
    (isKey : StringBody LooseEscape key content) (blankBetween : Gap between)
    (blankBefore : Gap before) {depth : Nat} (skips : Skips depth .value text)
    (blank : Gap after) :
    Skips depth (.item true)
      ('"' :: (key ++ (between ++ ':' :: (before ++ (text ++ after))))) := by
  intro gap mark rest blankGap isMark
  rcases skips before (after ++ mark :: rest) blankBefore (endsValue_gap blank isMark rest) with
    ⟨result, read⟩
  refine ⟨(String.ofList content, result), after, blank, ?_⟩
  have shape : gap ++ ('"' :: (key ++ (between ++ ':' :: (before ++ (text ++ after)))) ++
      mark :: rest) = gap ++ ('"' :: (key ++ (between ++ ':' ::
        (before ++ (text ++ (after ++ mark :: rest)))))) := by
    simp
  rw [shape]
  exact run_member_value (fun _ _ => takes_looseEscape) isKey blankGap blankBetween read

theorem skips_last {keyed : Bool} {text : List Char} {depth : Nat}
    (skips : Skips depth (.item keyed) text) : Skips depth (.items keyed) text := by
  intro gap rest blank
  rcases skips gap (ending keyed) rest blank (.inr rfl) with ⟨result, after, blankAfter, read⟩
  have ends := (takes_another blankAfter keyed).2 rest
  rw [List.append_assoc] at ends
  exact ⟨[result], .last read ends⟩

theorem skips_more {keyed : Bool} {text between others : List Char} {depth : Nat}
    (skips : Skips depth (.item keyed) text) (blank : Gap between)
    (skipsOthers : Skips depth (.items keyed) others) :
    Skips depth (.items keyed) (text ++ ',' :: (between ++ others)) := by
  intro gap rest blankGap
  rcases skips gap ',' (between ++ (others ++ ending keyed :: rest)) blankGap (.inl rfl) with
    ⟨result, after, blankAfter, read⟩
  rcases skipsOthers between rest blank with ⟨results, separated⟩
  have continues := (takes_another blankAfter keyed).1 (between ++ (others ++ ending keyed :: rest))
  rw [List.append_assoc] at continues
  refine ⟨result :: results, ?_⟩
  rw [List.append_assoc, List.cons_append, List.append_assoc]
  exact .more read continues separated

/-- A value is skipped whatever it is, if values may be nested in it as deep as it is long. -/
theorem Spelled.skips {phrase : Phrase} {text : List Char} (spelled : Spelled phrase text)
    {depth : Nat} (room : text.length ≤ depth) : Skips depth phrase text := by
  induction spelled generalizing depth with
  | constant listed => exact skips_constant listed depth
  | string isBody => exact skips_string isBody depth
  | number isNumeral => exact skips_number isNumeral depth
  | negative isNumeral => exact skips_negative isNumeral depth
  | empty keyed blank =>
      cases depth with
      | zero => cases room
      | succ depth => exact skips_empty keyed blank depth
  | nested blank items inductionHypothesis =>
      cases depth with
      | zero => cases room
      | succ depth =>
          refine skips_nested blank items.begins (inductionHypothesis ?_)
          simp only [List.length_cons, List.length_append, List.length_nil] at room
          omega
  | element value blank inductionHypothesis =>
      refine skips_element (inductionHypothesis ?_) blank
      rw [List.length_append] at room
      omega
  | member isKey blankBetween blankBefore value blank inductionHypothesis =>
      refine skips_member isKey blankBetween blankBefore (inductionHypothesis ?_) blank
      simp only [List.length_cons, List.length_append] at room
      omega
  | last item inductionHypothesis => exact skips_last (inductionHypothesis room)
  | more item blank items itemHypothesis itemsHypothesis =>
      simp only [List.length_cons, List.length_append] at room
      exact skips_more (itemHypothesis (by omega)) blank (itemsHypothesis (by omega))

/-- A value of any kind and depth is skipped, and nothing else. -/
theorem run_skipped {gap text rest : List Char} (blank : Gap gap) (spelled : Spelled .value text)
    (ends : EndsValue rest) : skipped.run (gap ++ (text ++ rest)) = .ok ((), rest) := by
  have room : text.length ≤ (gap ++ (text ++ rest)).length := by
    simp only [List.length_append]
    omega
  rcases spelled.skips room gap rest blank ends with ⟨result, read⟩
  simp only [skipped, read]

end Json
end TestQuery
