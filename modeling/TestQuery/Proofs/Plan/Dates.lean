import TestQuery.Proofs.Plan.Meaning
import TestQuery.Proofs.Plan.Values
import TestQuery.Proofs.Query.Assignment
import TestQuery.Proofs.Timestamp

namespace TestQuery

/-!
# Dates, from the text of a query to its plan

A date that a query is given stands in its plan as a timestamp, and no other timestamps are
there: the dates follow the owner in the conditions, and are shown with hyphens for slashes.
-/

namespace Plan

open Sql
open Query (Purpose StringOf)

/-! ## Dates among the conditions -/

/-- What is bound for a written date. -/
def boundFor (content : String) : Value :=
  .dateTime (Timestamp.read? .query content)

theorem boundFor_render (moment : Timestamp) :
    boundFor (moment.render .query) = .dateTime (some moment) :=
  congrArg Value.dateTime (Timestamp.read?_eq_some_iff.mpr rfl)

theorem describe_boundFor_render (moment : Timestamp) :
    (boundFor (moment.render .query)).describe =
      "'" ++ (moment.render .query).map Timestamp.hyphen ++ "'" := by
  rw [boundFor_render, ← Timestamp.render_parameter]
  rfl

def startText? (query : Query) : Option String :=
  query.startDate.map (·.render .query)

def endText? (query : Query) : Option String :=
  query.endDate.map (·.render .query)

section

variable (settings : Settings) (owner : Uuid) (purpose : Purpose)

/-- A comparison of a column of the rows, in the text of a plan. -/
def comparisonText (column sign : String) (value : Value) : List Lexeme :=
  Lexeme.column (settings.tables.get (scopeTable purpose)) column ++ [.sign sign, .value value]

/-- The texts that compare the time of creation with a date, if there is one. -/
def dateTexts (sign : String) (date? : Option String) : List (List Lexeme) :=
  date?.toList.map fun date => comparisonText settings purpose "created_at" sign (boundFor date)

theorem written_comparison (column : Column) (operator : Comparison) (parameter : Parameter) :
    Fragment.written settings.dialect settings.tables
        (Test.compare ((scopeTable purpose).col column) operator parameter).fragments =
      comparisonText settings purpose column.spelling operator.symbol
        (settings.dialect.bind parameter) := by
  rw [Test.written_eq]
  rfl

theorem conditionTexts_date (operator : Comparison) (date? : Option Timestamp) :
    conditionTexts settings (date?.map fun moment => Condition.test
        (.compare ((scopeTable purpose).col .createdAt) operator (.moment moment))).toList =
      dateTexts settings purpose operator.symbol (date?.map (·.render .query)) := by
  cases date? with
  | none => rfl
  | some moment =>
      have value : settings.dialect.bind (.moment moment) = boundFor (moment.render .query) :=
        (boundFor_render moment).symm
      have text := written_comparison settings purpose .createdAt operator (.moment moment)
      rw [value] at text
      exact congrArg (fun text => [text]) text

/-- The conditions that a query is never without begin with the owner, then come its
dates. -/
theorem conditionTexts_scope (query : Query) :
    conditionTexts settings (scope owner (scopeTable purpose) query) =
      [comparisonText settings purpose "user_id" "=" (settings.dialect.uuidValue owner)] ++
        dateTexts settings purpose ">=" (startText? query) ++
        dateTexts settings purpose "<=" (endText? query) := by
  have ownerText := written_comparison settings purpose .userId .equal (.id owner)
  rw [Dialect.bind_id] at ownerText
  have start := conditionTexts_date settings purpose .atLeast query.startDate
  have stop := conditionTexts_date settings purpose .atMost query.endDate
  rw [conditionTexts, scope, List.map_append, List.map_append]
  refine congr (congrArg _ (congr (congrArg _ ?_) start)) stop
  exact congrArg (fun text => [text]) ownerText

/-- The conditions of the rows are joined by `AND`. -/
theorem writtenConditions_rowsOf (query : Query) (conditions : List Condition) :
    (rowsOf query conditions purpose).writtenConditions settings.dialect settings.tables =
      List.intercalate [.word "AND"] (conditionTexts settings conditions) := by
  have andWord : Fragment.filled settings.dialect settings.tables (.text " AND ") =
      [.word "AND"] := by
    cases settings.dialect <;> rfl
  rw [Select.writtenConditions, written_separate, rowsOf_conditions, andWord, List.map_map]
  rfl

end

/-! ## Dates among the values -/

/-- The value is a timestamp, or the null of timestamps. -/
def isMoment : Value → Bool
  | .dateTime _ => true
  | _ => false

/-- There is no timestamp among the values. -/
def Timeless (values : List Value) : Prop :=
  ∀ value ∈ values, isMoment value = false

namespace Timeless

variable {value : Value} {values : List Value}

theorem nil : Timeless [] :=
  List.forall_mem_nil _

theorem cons (first : isMoment value = false) (rest : Timeless values) :
    Timeless (value :: values) :=
  List.forall_mem_cons.mpr ⟨first, rest⟩

theorem flatMap {α : Type} {items : List α} {give : α → List Value}
    (each : ∀ item, Timeless (give item)) : Timeless (items.flatMap give) := by
  intro value member
  rcases List.mem_flatMap.mp member with ⟨item, -, given⟩
  exact each item value given

theorem filter (timeless : Timeless values) : values.filter isMoment = [] := by
  apply List.filter_eq_nil_iff.mpr
  intro value member
  rw [timeless value member]
  exact Bool.false_ne_true

end Timeless

section

variable (dialect : Dialect)

theorem isMoment_uuidValue (id : Uuid) : isMoment (dialect.uuidValue id) = false := by
  cases dialect <;> rfl

theorem timeless_chain (chain : List Link) : Timeless (chainValues dialect chain) := by
  apply Timeless.flatMap
  intro link
  apply Timeless.flatMap
  intro predicate
  cases predicate with
  | session comparison id => exact .cons (isMoment_uuidValue dialect id) .nil
  | testcase comparison id => exact .cons (isMoment_uuidValue dialect id) .nil
  | text field comparison value => exact .cons rfl .nil
  | status comparison outcome => exact .cons rfl .nil
  | tagged comparison tag => exact .cons rfl .nil
  | taggedWith comparison tag value => exact .cons rfl (.cons rfl .nil)

theorem timeless_tags (keys : List GroupKey) : Timeless (tagValues keys) := by
  apply Timeless.flatMap
  intro key
  cases key with
  | session => exact .nil
  | tag tag => exact .cons rfl .nil

theorem timeless_window (query : Query) : Timeless (windowValues query) := by
  rw [windowValues]
  apply Timeless.cons rfl
  split
  · exact .cons rfl .nil
  · exact .nil

theorem timeless_of_pinned {purpose : Purpose} {number : Nat} {keys : List GroupKey}
    {values : List String} {pins : List Condition}
    (pinned : Pinned purpose number keys values pins) :
    Timeless (conditionValues dialect pins) := by
  induction pinned with
  | nil => exact .nil
  | @session _ _ _ _ id _ named others inductionHypothesis =>
      have pin : isMoment (dialect.bind (.id id)) = false := by
        rw [Dialect.bind_id, isMoment_uuidValue]
      exact .cons pin inductionHypothesis
  | tag others inductionHypothesis =>
      cases purpose with
      | groups => exact .cons rfl inductionHypothesis
      | testcases => exact .cons rfl (.cons rfl inductionHypothesis)
      | sessions => exact .cons rfl (.cons rfl inductionHypothesis)

theorem moments_of_scope (owner : Uuid) (query : Query) :
    (scopeValues dialect owner query).filter isMoment =
      ((startText? query).toList ++ (endText? query).toList).map boundFor := by
  have date (date? : Option Timestamp) :
      (date?.toList.map fun moment => Value.dateTime (some moment)).filter isMoment =
        (date?.map (·.render .query)).toList.map boundFor := by
    cases date? with
    | none => rfl
    | some moment => exact congrArg (fun value => [value]) (boundFor_render moment).symm
  have ownerOnly : Timeless [dialect.uuidValue owner] :=
    .cons (isMoment_uuidValue dialect owner) .nil
  rw [scopeValues, List.filter_append, List.filter_append, ownerOnly.filter, date, date,
    List.map_append]
  rfl

end

/-- The timestamps of a plan are the dates of its query. -/
theorem moments_of_assembled (settings : Settings) (owner : Uuid) {query : Query}
    {purpose : Purpose} {page : Page} {pins : List Condition} (paged : pageOf query = .ok page)
    (pinned : pinsOf query purpose = .ok pins) :
    (assembled settings owner query purpose page pins).values.filter isMoment =
      ((startText? query).toList ++ (endText? query).toList).map boundFor := by
  have dates := moments_of_scope settings.dialect owner query
  have chain := (timeless_chain settings.dialect query.chain).filter
  have pinValues := (timeless_of_pinned settings.dialect (pinned_of_ok pinned)).filter
  have tags := (timeless_tags (query.groupBy.getD [])).filter
  have window := (timeless_window query).filter
  rw [assembled_values settings owner paged pins, ← dates]
  cases purpose <;>
    simp only [queryValues, List.filter_append, chain, pinValues, tags, window, List.nil_append,
      List.append_nil]

/-! ## Plans of texts -/

/-- The plan has these dates: its conditions begin with the owner and the dates, no other
value is a timestamp, and the dates are shown with hyphens for slashes. -/
structure Dated (settings : Settings) (owner : Uuid) (purpose : Purpose) (plan : Plan)
    (start? end? : Option String) : Prop where
  conditions : ∃ others, plan.innerConditions? = some (List.intercalate [.word "AND"]
    ([comparisonText settings purpose "user_id" "=" (settings.dialect.uuidValue owner)] ++
      dateTexts settings purpose ">=" start? ++ dateTexts settings purpose "<=" end? ++ others))
  values : plan.values.filter isMoment = (start?.toList ++ end?.toList).map boundFor
  described : ∀ content, start? = some content ∨ end? = some content →
    (boundFor content).describe = "'" ++ content.map Timestamp.hyphen ++ "'"

theorem dated_of_ok {settings : Settings} {owner : Uuid} {query : Query} {purpose : Purpose}
    {plan : Plan} (success : ofQuery settings owner query purpose = .ok plan) :
    Dated settings owner purpose plan (startText? query) (endText? query) := by
  rcases assembled_of_ok success with ⟨page, pins, paged, pinned, keyed, rfl⟩
  refine ⟨?_, moments_of_assembled settings owner paged pinned, ?_⟩
  · have ordered : ∃ others, conditionsOf owner query purpose pins =
        scope owner (scopeTable purpose) query ++ others := by
      cases purpose <;> exact ⟨_, List.append_assoc _ _ _⟩
    rcases ordered with ⟨others, isOrdered⟩
    refine ⟨conditionTexts settings others, ?_⟩
    rw [innerConditions?_assembled settings owner page pins keyed, writtenConditions_rowsOf,
      isOrdered, ← conditionTexts_scope, conditionTexts, List.map_append]
    rfl
  · rintro content (isStart | isEnd)
    · rcases Option.map_eq_some_iff.mp isStart with ⟨moment, -, rfl⟩
      exact describe_boundFor_render moment
    · rcases Option.map_eq_some_iff.mp isEnd with ⟨moment, -, rfl⟩
      exact describe_boundFor_render moment

/-- Dates are read exactly.  A text is read as the fields of a date that exists if and only
if it is written so; no two texts are read as one date; and a plan binds the dates that the
text of its query assigns, described as they were written but for the hyphens. -/
theorem dates_read_exactly :
    (∀ (text : String) (year month day hour minute second : Nat),
      (Timestamp.read? .query text).map Timestamp.fields =
          some (year, month, day, hour, minute, second) ↔
        Timestamp.InCalendar year month day hour minute second ∧
          text = Timestamp.slashed year month day hour minute second) ∧
    (∀ first second : String, Timestamp.read? .query first ≠ none →
      Timestamp.read? .query first = Timestamp.read? .query second → first = second) ∧
    (∀ (settings : Settings) (owner : Uuid) (purpose : Purpose) (text : String) (query : Query)
        (plan : Plan),
      Query.read text = .ok query → ofQuery settings owner query purpose = .ok plan →
      ∃ start? end?,
        (∀ content, StringOf text .startDate content ↔ start? = some content) ∧
        (∀ content, StringOf text .endDate content ↔ end? = some content) ∧
        Dated settings owner purpose plan start? end?) := by
  refine ⟨?_, ?_, ?_⟩
  · intro text year month day hour minute second
    exact Timestamp.read?_fields_iff
  · intro first second accepted same
    exact Timestamp.text_of_read? accepted same
  · intro settings owner purpose text query plan read success
    have said := Query.saidBy_of_read read
    exact ⟨startText? query, endText? query, said.startDate, said.endDate, dated_of_ok success⟩

/-- The last day of a February, with a leap second. -/
def leapDay : Timestamp :=
  ⟨2000, 2, 29, 23, 59, 60, by decide⟩

/-- The year 1900 has no such day, and the second is not the one after it. -/
theorem dates_read_exactly_leapDay :
    (Timestamp.read? .query "2000/02/29 23:59:60").map Timestamp.fields =
        some (2000, 2, 29, 23, 59, 60) ∧
      (∀ hour minute second : Nat,
        (Timestamp.read? .query "1900/02/29 00:00:00").map Timestamp.fields ≠
          some (1900, 2, 29, hour, minute, second)) ∧
      Timestamp.read? .query "2000/02/29 23:59:60" ≠
        Timestamp.read? .query "2000/03/01 00:00:00" ∧
      ∃ plan, ofQuery {} .nil { endDate := some leapDay } .sessions = .ok plan ∧
        Query.read "end_date = \"2000/02/29 23:59:60\"" = .ok { endDate := some leapDay } ∧
        (plan.values.filter isMoment).map Value.describe = ["'2000-02-29 23:59:60'"] := by
  have reads := dates_read_exactly.1
  have inCalendar : Timestamp.InCalendar 2000 2 29 23 59 60 :=
    ⟨by decide, ⟨29, by decide, by decide, by decide⟩, by decide, by decide, by decide⟩
  have written : "2000/02/29 23:59:60" = Timestamp.slashed 2000 2 29 23 59 60 := by
    decide +kernel
  have fields := (reads _ _ _ _ _ _ _).mpr ⟨inCalendar, written⟩
  refine ⟨fields, ?_, ?_, ?_⟩
  · intro hour minute second found
    rcases ((reads _ _ _ _ _ _ _).mp found).1.days with ⟨length, listed, -, last⟩
    have short : Timestamp.daysInMonth 1900 2 = 28 := by
      decide
    rw [Timestamp.daysInMonth_of_mem listed] at short
    omega
  · intro same
    have accepted : Timestamp.read? .query "2000/02/29 23:59:60" ≠ none := by
      intro refused
      rw [refused] at fields
      cases fields
    exact absurd (dates_read_exactly.2.1 _ _ accepted same) (by decide)
  · have read : Query.read "end_date = \"2000/02/29 23:59:60\"" =
        .ok { endDate := some leapDay } := by
      decide +kernel
    have said := Query.saidBy_of_read read
    have planned : ofQuery {} .nil { endDate := some leapDay } .sessions = .ok _ := rfl
    rcases dates_read_exactly.2.2 {} .nil .sessions _ _ _ read planned with
      ⟨start?, end?, isStart, isEnd, dated⟩
    have noStart : start? = none := by
      apply Option.eq_none_iff_forall_ne_some.mpr
      intro content given
      cases (said.startDate content).mp ((isStart content).mpr given)
    have ends : end? = some "2000/02/29 23:59:60" := by
      apply (isEnd _).mp
      apply (said.endDate _).mpr
      decide +kernel
    refine ⟨_, planned, read, ?_⟩
    rw [dated.values, noStart, ends]
    exact congrArg (fun text => [text]) ((dated.described _ (.inr ends)).trans (by decide +kernel))

end Plan

end TestQuery
