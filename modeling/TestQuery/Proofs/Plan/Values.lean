import TestQuery.Proofs.Plan.Planned
import TestQuery.Proofs.Sql.Parameters
import TestQuery.Proofs.Sql.Places

namespace TestQuery
namespace Plan

open Sql
open Query (Purpose)

/-!
# The places of a plan and its values

The text of a plan has a mark for each value that is bound to it.  Marks that have
numbers are numbered from one on, in the order of the text; so the values have to
come in that order too.  What this order is depends on the purpose alone: in an
enumeration the tags that labels are joined for come first, and the pins come before
the predicates rather than after them.
-/

/-! ## The values that a query gives -/

section

variable (dialect : Dialect)

def predicateValues : Predicate → List Value
  | .session _ id | .testcase _ id => [dialect.uuidValue id]
  | .text _ _ value => [.string (some value)]
  | .status _ outcome => [.int (some outcome.rank)]
  | .tagged _ tag => [.string (some tag)]
  | .taggedWith _ tag value => [.string (some tag), .string (some value)]

/-- The values of the predicates, in the order of the chain. -/
def chainValues (chain : List Link) : List Value :=
  chain.flatMap fun link => link.predicate.toList.flatMap (predicateValues dialect)

def scopeValues (owner : Uuid) (query : Query) : List Value :=
  [dialect.uuidValue owner] ++ query.startDate.toList.map (fun moment => .dateTime (some moment)) ++
    query.endDate.toList.map (fun moment => .dateTime (some moment))

/-- The values of the pins, in the order of the keys.  A list is pinned by tag and value,
an enumeration by the value only. -/
def pinValues? (purpose : Purpose) : List GroupKey → List String → Option (List Value)
  | [], [] => some []
  | .session :: keys, value :: values =>
    match Uuid.ofText? value.toList, pinValues? purpose keys values with
    | some id, some others => some (dialect.uuidValue id :: others)
    | _, _ => none
  | .tag tag :: keys, value :: values =>
    (pinValues? purpose keys values).map fun others =>
      match purpose with
      | .groups => .string (some value) :: others
      | _ => .string (some tag) :: .string (some value) :: others
  | _, _ => none

def selectorValues? (query : Query) (purpose : Purpose) : Option (List Value) :=
  match query.groupBy, query.selector with
  | some keys, some values => pinValues? dialect purpose keys values
  | _, _ => some []

def tagValues (keys : List GroupKey) : List Value :=
  keys.flatMap fun
    | .session => []
    | .tag tag => [.string (some tag)]

/-- The values of the window: the size of the page, and its start unless that is zero. -/
def windowValues (query : Query) : List Value :=
  [.bigUnsigned (some (if query.limit = 0 then 100 else query.limit.toNat))] ++
    if 0 < query.offset then [.bigUnsigned (some query.offset.toNat)] else []

/-- All values of a plan, in the order of their places. -/
def queryValues (owner : Uuid) (query : Query) (purpose : Purpose) (pins : List Value) :
    List Value :=
  match purpose with
  | .groups =>
    tagValues (query.groupBy.getD []) ++ scopeValues dialect owner query ++ pins ++
      chainValues dialect query.chain ++ windowValues query
  | _ =>
    scopeValues dialect owner query ++ chainValues dialect query.chain ++ pins ++
      windowValues query

end

/-- The marks that a number of values need. -/
def placeMarks (count : Nat) : Dialect → List String
  | .postgres => (List.range count).map fun position => "$" ++ toString (position + 1)
  | .mysql | .sqlite => List.replicate count "?"

/-- The marks in the text of the plan, outside of quoted names, are those that its values
need. -/
def PlacesMatch (dialect : Dialect) (plan : Plan) : Prop :=
  Lexeme.marks (Lexeme.scan dialect plan.sql.toList) = placeMarks plan.values.length dialect

/-! ## Places -/

theorem placeMarks_eq (count : Nat) (dialect : Dialect) :
    (List.range' 1 count).map (fun place => String.ofList (dialect.placeholder place)) =
      placeMarks count dialect := by
  cases dialect with
  | postgres =>
      rw [List.range'_eq_map_range, List.map_map, placeMarks]
      apply List.map_congr_left
      intro position _
      have numeral : toString (position + 1) = String.ofList (Nat.toDigits 10 (position + 1)) := rfl
      rw [Function.comp_apply, Nat.add_comm, numeral, Dialect.placeholder]
      have sign : "$" = String.ofList ['$'] := rfl
      rw [sign, ← String.ofList_append]
      rfl
  | mysql =>
      exact List.map_const'.trans (congrArg (List.replicate · "?") List.length_range')
  | sqlite =>
      exact List.map_const'.trans (congrArg (List.replicate · "?") List.length_range')

/-- Every plan has a mark for each of its values. -/
theorem placesMatch (plan : Plan) : PlacesMatch plan.settings.dialect plan := by
  have count : plan.values.length = (Fragment.parameters plan.statement.fragments).length :=
    List.length_map _
  rw [PlacesMatch, scan_sql,
    Fragment.marks_lexemesFrom plan.statement.spaced.plain, count, placeMarks_eq]

/-! ## Values -/

section

variable (dialect : Dialect)

def conditionValues (conditions : List Condition) : List Value :=
  (conditions.flatMap Condition.parameters).map dialect.bind

theorem conditionValues_append (left right : List Condition) :
    conditionValues dialect (left ++ right) =
      conditionValues dialect left ++ conditionValues dialect right := by
  rw [conditionValues, List.flatMap_append, List.map_append]
  rfl

theorem testOf_values (key : ColumnRef) (predicate : Predicate) :
    (testOf key predicate).parameters.map dialect.bind = predicateValues dialect predicate := by
  cases predicate with
  | session comparison id => exact congrArg (fun value => [value]) (dialect.bind_id id)
  | testcase comparison id => exact congrArg (fun value => [value]) (dialect.bind_id id)
  | text field comparison value => rfl
  | status comparison outcome => rfl
  | tagged comparison tag => rfl
  | taggedWith comparison tag value => rfl

theorem joinTests_parameters (start : Condition) (tests : List (Connective × Test)) :
    (joinTests start tests).parameters =
      start.parameters ++ tests.flatMap (fun test => test.2.parameters) := by
  induction tests generalizing start with
  | nil => exact (List.append_nil start.parameters).symm
  | cons test tests inductionHypothesis =>
      rw [List.flatMap_cons, ← List.append_assoc]
      exact inductionHypothesis (.joined start test.1 test.2)

theorem chainOf_parameters (purpose : Purpose) (query : Query) :
    (chainOf purpose query).flatMap Condition.parameters =
      query.predicates.flatMap fun link => (testOf (sessionKey purpose) link.2).parameters := by
  rw [chainOf, chainCondition]
  cases query.predicates with
  | nil => rfl
  | cons first others =>
      have joined := joinTests_parameters (.test (testOf (sessionKey purpose) first.2))
        (others.map fun link => (link.1, testOf (sessionKey purpose) link.2))
      rw [List.flatMap_map] at joined
      exact (List.append_nil _).trans joined

theorem chainOf_values (purpose : Purpose) (query : Query) :
    conditionValues dialect (chainOf purpose query) = chainValues dialect query.chain := by
  rw [conditionValues, chainOf_parameters, List.map_flatMap, chainValues, Query.predicates]
  simp only [testOf_values]
  induction query.chain with
  | nil => rfl
  | cons link links inductionHypothesis =>
      rcases link with ⟨connective, _ | predicate⟩
      · exact inductionHypothesis
      · rw [List.flatMap_cons, ← inductionHypothesis]
        exact congrArg (· ++ _) (List.append_nil _).symm

theorem scope_values (owner : Uuid) (table : Table) (query : Query) :
    conditionValues dialect (scope owner table query) = scopeValues dialect owner query := by
  rw [scope, scopeValues]
  cases query.startDate <;> cases query.endDate <;> cases dialect <;> rfl

theorem pinned_values {purpose : Purpose} {number : Nat} {keys : List GroupKey}
    {values : List String} {pins : List Condition}
    (pinned : Pinned purpose number keys values pins) :
    pinValues? dialect purpose keys values = some (conditionValues dialect pins) := by
  induction pinned with
  | nil => rfl
  | session named others inductionHypothesis =>
      rw [pinValues?, named, inductionHypothesis]
      cases dialect <;> rfl
  | tag others inductionHypothesis =>
      rw [pinValues?, inductionHypothesis]
      cases purpose <;> rfl

theorem pinsOf_values {query : Query} {purpose : Purpose} {pins : List Condition}
    (success : pinsOf query purpose = .ok pins) :
    selectorValues? dialect query purpose = some (conditionValues dialect pins) := by
  have selected : selectorValues? dialect query purpose =
      pinValues? dialect purpose (selection query).1 (selection query).2 := by
    rw [selectorValues?, selection]
    cases query.groupBy <;> cases query.selector <;> rfl
  rw [selected, pinned_values dialect (pinned_of_ok success)]

theorem keyJoins_values (number : Nat) (keys : List GroupKey) :
    ((keyJoins number keys).flatMap fun join => join.tests.flatMap Test.parameters).map
        dialect.bind = tagValues keys := by
  induction keys generalizing number with
  | nil => rfl
  | cons key keys inductionHypothesis =>
      cases key with
      | session => exact inductionHypothesis number
      | tag tag => exact congrArg (Value.string (some tag) :: ·) (inductionHypothesis (number + 1))

theorem windowOf_values {query : Query} {page : Page} (paged : pageOf query = .ok page)
    (purpose : Purpose) :
    (windowOf query page purpose).parameters.map dialect.bind = windowValues query := by
  have window (projections : List Projection) (ordering : List (ColumnRef × Direction)) :
      (pageSelect page projections ordering).parameters.map dialect.bind =
        windowValues query := by
    rcases pageOf_eq_ok paged with ⟨offset, limit⟩
    rw [pageSelect, Select.parameters, windowValues, offset, limit, limitOf]
    by_cases positive : 0 < query.offset
    · have skips : query.offset.toNat ≠ 0 := by omega
      simp only [if_pos positive, if_neg skips]
      rfl
    · have start : query.offset.toNat = 0 := by omega
      simp only [if_neg positive, if_pos start]
      rfl
  cases purpose with
  | testcases => exact window _ _
  | sessions => exact window _ _
  | groups => exact window _ _

theorem assembled_values (settings : Settings) (owner : Uuid) {query : Query} {purpose : Purpose}
    {page : Page} (paged : pageOf query = .ok page) (pins : List Condition) :
    (assembled settings owner query purpose page pins).values =
      queryValues settings.dialect owner query purpose
        (conditionValues settings.dialect pins) := by
  have window := windowOf_values settings.dialect paged purpose
  have conditions := scope_values settings.dialect owner (scopeTable purpose) query
  have chain := chainOf_values settings.dialect purpose query
  have parts : (assembled settings owner query purpose page pins).values =
      (rowsOf query (conditionsOf owner query purpose pins) purpose).parameters.map
        settings.dialect.bind ++ windowValues query := by
    rw [← window, ← List.map_append, ← Statement.parameters_paged]
    rfl
  have rowValues (select : Select) (limit : select.limit = none) (offset : select.offset = none) :
      select.parameters.map settings.dialect.bind =
        (select.joins.flatMap fun join => join.tests.flatMap Test.parameters).map
            settings.dialect.bind ++
          conditionValues settings.dialect select.conditions := by
    rw [Select.parameters, limit, offset, conditionValues, ← List.map_append]
    simp only [Option.toList_none, List.map_nil, List.append_nil]
  rw [parts, rowValues _ (by cases purpose <;> rfl) (by cases purpose <;> rfl)]
  cases purpose with
  | testcases | sessions =>
      simp only [rowsOf, testcaseRows, sessionRows, testcasesOfSession, conditionsOf,
        conditionValues_append, conditions, chain]
      rfl
  | groups =>
      have tags := keyJoins_values settings.dialect 0 (keysOf query)
      simp only [rowsOf, groupRows, conditionsOf, conditionValues_append, conditions, chain, tags,
        queryValues, List.append_assoc]
      rfl

/-- The values of a lookup: the id comes before the owner. -/
theorem lookup_values (settings : Settings) (owner id : Uuid) :
    (testcaseLookup settings owner id).values =
        [settings.dialect.uuidValue id, settings.dialect.uuidValue owner,
          .bigUnsigned (some 1)] ∧
      (sessionLookup settings owner id).values =
        [settings.dialect.uuidValue id, settings.dialect.uuidValue owner] ∧
      (labelLookup settings owner id).values =
        [settings.dialect.uuidValue id, settings.dialect.uuidValue owner] := by
  have ofSelect (plan : Plan) (select : Select) (plain : plan.statement = .plain select) :
      plan.values = select.parameters.map plan.settings.dialect.bind := by
    rw [values, parameters, plain, ← select.parameters_fragments]
    rfl
  rw [ofSelect _ _ rfl, ofSelect _ _ rfl, ofSelect _ _ rfl, testcaseLookup, sessionLookup,
    labelLookup]
  cases settings.dialect <;> exact ⟨rfl, rfl, rfl⟩

end

/-- Places and values belong together.  Every plan has one mark for each value, numbered in
order where marks have numbers, and the values come in the order that the purpose sets. -/
theorem places_and_values (settings : Settings) (owner : Uuid) :
    (∀ (query : Query) (purpose : Purpose) (plan : Plan),
      ofQuery settings owner query purpose = .ok plan →
      PlacesMatch settings.dialect plan ∧
      ∃ pins, selectorValues? settings.dialect query purpose = some pins ∧
        plan.values = queryValues settings.dialect owner query purpose pins) ∧
    (∀ id : Uuid,
      PlacesMatch settings.dialect (testcaseLookup settings owner id) ∧
      (testcaseLookup settings owner id).values =
        [settings.dialect.uuidValue id, settings.dialect.uuidValue owner,
          .bigUnsigned (some 1)] ∧
      PlacesMatch settings.dialect (sessionLookup settings owner id) ∧
      (sessionLookup settings owner id).values =
        [settings.dialect.uuidValue id, settings.dialect.uuidValue owner] ∧
      PlacesMatch settings.dialect (labelLookup settings owner id) ∧
      (labelLookup settings owner id).values =
        [settings.dialect.uuidValue id, settings.dialect.uuidValue owner]) := by
  constructor
  · intro query purpose plan success
    rcases assembled_of_ok success with ⟨page, pins, paged, pinned, -, rfl⟩
    exact ⟨placesMatch (assembled settings owner query purpose page pins),
      conditionValues settings.dialect pins,
      pinsOf_values settings.dialect pinned, assembled_values settings owner paged pins⟩
  · intro id
    rcases lookup_values settings owner id with ⟨testcase, session, labels⟩
    exact ⟨placesMatch (testcaseLookup settings owner id), testcase,
      placesMatch (sessionLookup settings owner id), session,
      placesMatch (labelLookup settings owner id), labels⟩

/-- A page of the groups of three keys, pinned to one of them. -/
def pinnedGroups : Query where
  chain := [⟨.and, some (.taggedWith .equal "ci" "yes")⟩, ⟨.and, none⟩,
    ⟨.or, some (.status .notEqual .pass)⟩]
  groupBy := some [.tag "os", .session, .tag "arch"]
  selector := some ["linux", "00000000-0000-0000-0000-000000000000", "arm"]
  offset := 20

/-- The values of an enumeration with all kinds of places, in tables whose names have
marks in them. -/
theorem places_and_values_enumeration :
    ∃ plan, ofQuery { tables := { labels := "l$1?" } } .nil pinnedGroups .groups = .ok plan ∧
      Lexeme.marks (Lexeme.scan .postgres plan.sql.toList) =
        ["$1", "$2", "$3", "$4", "$5", "$6", "$7", "$8", "$9", "$10", "$11"] ∧
      plan.values =
        [.string (some "os"), .string (some "arch"), .uuid (some .nil), .string (some "linux"),
          .uuid (some .nil), .string (some "arm"), .string (some "ci"), .string (some "yes"),
          .int (some Status.pass.rank), .bigUnsigned (some 100), .bigUnsigned (some 20)] := by
  have planned : ofQuery { tables := { labels := "l$1?" } } .nil pinnedGroups .groups = .ok _ := rfl
  rcases (places_and_values { tables := { labels := "l$1?" } } .nil).1 _ _ _ planned with
    ⟨places, pins, selected, values⟩
  cases selected
  exact ⟨_, planned, places, values⟩

end Plan
end TestQuery
