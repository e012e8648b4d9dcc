import TestQuery.Proofs.Plan.Text
import TestQuery.Proofs.Sql.Conditions

namespace TestQuery
namespace Plan

open Sql
open Query (Purpose)

/-!
# The conditions of a plan mean what the query says

The text of a plan is split into lexemes, its values are put in their places, and
the conditions of the inner selection are read by the grammar of conditions.  They
are true of a row exactly as far as the query says: the row is the owner's, it was
created within the dates, it meets the chain of predicates joined strictly from
left to right, and it belongs to the selected group.

What a query says is put down here without regard to how it is planned: a
predicate is a test of a named column with a value, and the chain is a fold.
-/

/-! ## What a query says -/

section

variable (settings : Settings)

/-- The name of the table that a purpose selects from. -/
def scopeName : Purpose → String
  | .sessions => settings.tables.sessions
  | .testcases | .groups => settings.tables.testcases

/-- The column that holds the id of the session. -/
def sessionField : Purpose → Field
  | .sessions => ⟨settings.tables.sessions, "id"⟩
  | .testcases | .groups => ⟨settings.tables.testcases, "session_id"⟩

def operatorOf : Equality → Comparison
  | .equal => .equal
  | .notEqual => .notEqual

def fieldName : TextField → String
  | .name => "name"
  | .classname => "classname"
  | .testsuite => "testsuite"
  | .file => "file"

/-- A test for the labels of a session: is the session among those that have the tag,
with the value if one is given? -/
def labelAtom (session : Field) (negated : Bool) (tag : String) (value : Option String) : Atom :=
  .member session negated ⟨settings.tables.labels, "session_id"⟩ settings.tables.labels
    ⟨⟨settings.tables.labels, "key"⟩, .equal, .string (some tag)⟩
    (value.toList.map fun content =>
      ⟨⟨settings.tables.labels, "value"⟩, .equal, .string (some content)⟩)

def predicateAtom (purpose : Purpose) : Predicate → Atom
  | .session comparison id =>
    .compare ⟨sessionField settings purpose, operatorOf comparison,
      settings.dialect.uuidValue id⟩
  | .testcase comparison id =>
    .compare ⟨⟨settings.tables.testcases, "id"⟩, operatorOf comparison,
      settings.dialect.uuidValue id⟩
  | .text field comparison value =>
    .compare ⟨⟨settings.tables.testcases, fieldName field⟩, operatorOf comparison,
      .string (some value)⟩
  | .status comparison outcome =>
    .compare ⟨⟨settings.tables.testcases, "status"⟩, operatorOf comparison,
      .int (some outcome.rank)⟩
  | .tagged comparison tag =>
    labelAtom settings (sessionField settings purpose) (comparison = .notEqual) tag none
  | .taggedWith comparison tag value =>
    labelAtom settings (sessionField settings purpose) (comparison = .notEqual) tag (some value)

def ownerAtom (owner : Uuid) (purpose : Purpose) : Atom :=
  .compare ⟨⟨scopeName settings purpose, "user_id"⟩, .equal, settings.dialect.uuidValue owner⟩

def dateAtom (purpose : Purpose) (operator : Comparison) (moment : Timestamp) : Atom :=
  .compare ⟨⟨scopeName settings purpose, "created_at"⟩, operator, .dateTime (some moment)⟩

/-- The tests of a selector, one for each key.  `tagPin` is the test for a tag and its
value, given the number of tags before it. -/
def pinAtoms? (session : Field) (tagPin : Nat → String → String → Atom) :
    (number : Nat) → List GroupKey → List String → Option (List Atom)
  | _, [], [] => some []
  | number, .session :: keys, value :: values =>
    match Uuid.ofText? value.toList, pinAtoms? session tagPin number keys values with
    | some id, some others =>
      some (.compare ⟨session, .equal, settings.dialect.uuidValue id⟩ :: others)
    | _, _ => none
  | number, .tag tag :: keys, value :: values =>
    (pinAtoms? session tagPin (number + 1) keys values).map (tagPin number tag value :: ·)
  | _, _, _ => none

/-- The test for a tag and its value: in a list by the labels of the session, in an
enumeration by the labels that were joined for the tag. -/
def tagPin (purpose : Purpose) (number : Nat) (tag value : String) : Atom :=
  match purpose with
  | .groups => .compare ⟨⟨s!"l{number}", "value"⟩, .equal, .string (some value)⟩
  | .testcases | .sessions =>
    labelAtom settings (sessionField settings purpose) false tag (some value)

/-- The tests of the selector of a query. -/
def selectorAtoms? (query : Query) (purpose : Purpose) : Option (List Atom) :=
  match query.groupBy, query.selector with
  | some keys, some values =>
    pinAtoms? settings (sessionField settings purpose) (tagPin settings purpose) 0 keys values
  | _, _ => some []

variable {T : Type} (logic : Logic T)

/-- The truth of a chain: links without a predicate are left out, and the others are
joined strictly from left to right. -/
def chainValue (truth : Predicate → T) (chain : List Link) : T :=
  match chain.filterMap fun link => link.predicate.map (link.connective, ·) with
  | [] => logic.yes
  | (_, first) :: others =>
    others.foldl (fun value link => logic.join link.1 value (truth link.2)) (truth first)

/-- The truth of all that a query asks of a row. -/
def meaning (owner : Uuid) (query : Query) (purpose : Purpose) (pins : List Atom)
    (truth : Atom → T) : T :=
  logic.all
    ([truth (ownerAtom settings owner purpose)] ++
      query.startDate.toList.map
        (fun moment => truth (dateAtom settings purpose .atLeast moment)) ++
      query.endDate.toList.map (fun moment => truth (dateAtom settings purpose .atMost moment)) ++
      [chainValue logic (fun predicate => truth (predicateAtom settings purpose predicate))
        query.chain] ++
      pins.map truth)

end

/-- The conditions of the inner selection, found in the text of the plan after its
values have been put in their places. -/
def innerConditions? (plan : Plan) : Option (List Lexeme) :=
  (Lexeme.fill plan.settings.dialect plan.values 0
    (Lexeme.scan plan.settings.dialect plan.sql.toList)).map Lexeme.innerConditions

/-! ## The parts of a plan read as the parts of a query -/

section

variable (settings : Settings)

theorem sessionKey_field (purpose : Purpose) :
    (sessionKey purpose).field settings.tables = sessionField settings purpose := by
  cases purpose <;> rfl

theorem scopeTable_field (purpose : Purpose) (column : Column) :
    ((scopeTable purpose).col column).field settings.tables =
      ⟨scopeName settings purpose, column.spelling⟩ := by
  cases purpose <;> rfl

/-- The test of a predicate reads as the test that it stands for. -/
theorem testOf_atom (purpose : Purpose) (predicate : Predicate) :
    (testOf (sessionKey purpose) predicate).atom settings.dialect settings.tables =
      predicateAtom settings purpose predicate := by
  have operator (comparison : Equality) : comparisonOf comparison = operatorOf comparison := by
    cases comparison <;> rfl
  cases predicate with
  | session comparison id =>
      rw [testOf, Test.atom, sessionKey_field, Dialect.bind_id, operator, predicateAtom]
  | testcase comparison id =>
      rw [testOf, Test.atom, Dialect.bind_id, operator]
      rfl
  | text field comparison value =>
      rw [testOf, Test.atom, operator]
      cases field <;> cases settings.dialect <;> rfl
  | status comparison outcome =>
      rw [testOf, Test.atom, operator]
      cases settings.dialect <;> rfl
  | tagged comparison tag =>
      rw [testOf, Test.atom, sessionKey_field]
      rfl
  | taggedWith comparison tag value =>
      rw [testOf, Test.atom, sessionKey_field]
      rfl

variable {T : Type} (logic : Logic T) (truth : Atom → T)

/-- The truth of a condition of the plan. -/
def conditionValue (condition : Condition) : T :=
  (condition.formula settings.dialect settings.tables).eval logic truth

theorem joinTests_value (purpose : Purpose) (start : Condition)
    (links : List (Connective × Predicate)) :
    conditionValue settings logic truth
        (joinTests start (links.map fun link => (link.1, testOf (sessionKey purpose) link.2))) =
      links.foldl
        (fun value link => logic.join link.1 value (truth (predicateAtom settings purpose link.2)))
        (conditionValue settings logic truth start) := by
  induction links generalizing start with
  | nil => rfl
  | cons link links inductionHypothesis =>
      rw [List.map_cons, joinTests, List.foldl_cons, List.foldl_cons, ← testOf_atom]
      exact inductionHypothesis _

/-- The condition of a chain is as true as the chain. -/
theorem chainOf_value (purpose : Purpose) (query : Query) :
    logic.all ((chainOf purpose query).map (conditionValue settings logic truth)) =
      chainValue logic (fun predicate => truth (predicateAtom settings purpose predicate))
        query.chain := by
  rw [chainOf, chainCondition, chainValue, Query.predicates]
  cases query.chain.filterMap fun link => link.predicate.map (link.connective, ·) with
  | nil => rfl
  | cons first others =>
      have joined := joinTests_value settings logic truth purpose
        (.test (testOf (sessionKey purpose) first.2)) others
      have start : conditionValue settings logic truth
          (.test (testOf (sessionKey purpose) first.2)) =
            truth (predicateAtom settings purpose first.2) :=
        congrArg truth (testOf_atom settings purpose first.2)
      rw [start] at joined
      exact (Logic.all_cons logic _ []).trans ((logic.and_yes _).trans joined)

/-- The conditions on owner and dates read as the tests for them. -/
theorem scope_value (owner : Uuid) (purpose : Purpose) (query : Query) :
    (scope owner (scopeTable purpose) query).map (conditionValue settings logic truth) =
      [truth (ownerAtom settings owner purpose)] ++
        query.startDate.toList.map
          (fun moment => truth (dateAtom settings purpose .atLeast moment)) ++
        query.endDate.toList.map
          (fun moment => truth (dateAtom settings purpose .atMost moment)) := by
  have owned : conditionValue settings logic truth
      (.test (.compare ((scopeTable purpose).col .userId) .equal (.id owner))) =
        truth (ownerAtom settings owner purpose) := by
    rw [conditionValue, Condition.formula, Test.atom, scopeTable_field, Dialect.bind_id]
    rfl
  have dated (operator : Comparison) (moment : Timestamp) : conditionValue settings logic truth
      (.test (.compare ((scopeTable purpose).col .createdAt) operator (.moment moment))) =
        truth (dateAtom settings purpose operator moment) := by
    rw [conditionValue, Condition.formula, Test.atom, scopeTable_field]
    cases settings.dialect <;> rfl
  rw [scope]
  cases query.startDate <;> cases query.endDate <;>
    simp [owned, dated]

end

/-! ## The pins of a plan read as the tests of the selector -/

section

variable (settings : Settings)

/-- A condition as the plan writes it. -/
def conditionFormula (condition : Condition) : Formula :=
  condition.formula settings.dialect settings.tables

/-- Each pin reads as the test of its key. -/
theorem pinned_atoms {purpose : Purpose} {number : Nat} {keys : List GroupKey}
    {values : List String} {pins : List Condition}
    (pinned : Pinned purpose number keys values pins) :
    ∃ atoms, pinAtoms? settings (sessionField settings purpose) (tagPin settings purpose)
        number keys values = some atoms ∧
      pins.map (conditionFormula settings) = atoms.map Formula.atom := by
  induction pinned with
  | nil => exact ⟨[], rfl, rfl⟩
  | @session number keys value values id pins named others inductionHypothesis =>
      rcases inductionHypothesis with ⟨atoms, found, same⟩
      refine ⟨.compare ⟨sessionField settings purpose, .equal, settings.dialect.uuidValue id⟩ ::
        atoms, ?_, ?_⟩
      · simp only [pinAtoms?, named, found]
      · rw [List.map_cons, List.map_cons, same, conditionFormula, Condition.formula, Test.atom,
          sessionKey_field, Dialect.bind_id]
  | @tag number keys tag value values pins others inductionHypothesis =>
      rcases inductionHypothesis with ⟨atoms, found, same⟩
      refine ⟨tagPin settings purpose number tag value :: atoms, ?_, ?_⟩
      · rw [pinAtoms?, found]
        rfl
      · rw [List.map_cons, List.map_cons, same]
        cases purpose <;> rfl

/-- The pins of a plan are the tests of the selector, which always has some. -/
theorem pinsOf_atoms {query : Query} {purpose : Purpose} {pins : List Condition}
    (success : pinsOf query purpose = .ok pins) :
    ∃ atoms, selectorAtoms? settings query purpose = some atoms ∧
      pins.map (conditionFormula settings) = atoms.map Formula.atom := by
  have selected : selectorAtoms? settings query purpose =
      pinAtoms? settings (sessionField settings purpose) (tagPin settings purpose) 0
        (selection query).1 (selection query).2 := by
    rw [selectorAtoms?, selection]
    cases query.groupBy <;> cases query.selector <;> rfl
  rw [selected]
  exact pinned_atoms settings (pinned_of_ok success)

/-! ## The conditions of a plan -/

/-- The conditions of a plan are together as true as the query says. -/
theorem conditionsOf_value {T : Type} (logic : Logic T) (truth : Atom → T) (owner : Uuid)
    (query : Query) (purpose : Purpose) {pins : List Condition} {atoms : List Atom}
    (same : pins.map (conditionFormula settings) = atoms.map Formula.atom) :
    logic.all ((conditionsOf owner query purpose pins).map (conditionValue settings logic truth)) =
      meaning settings logic owner query purpose atoms truth := by
  have pinValues : pins.map (conditionValue settings logic truth) = atoms.map truth := by
    calc pins.map (conditionValue settings logic truth)
        = (pins.map (conditionFormula settings)).map (Formula.eval logic truth) := by
          rw [List.map_map]
          rfl
      _ = atoms.map truth := by
          rw [same, List.map_map]
          rfl
  have single (value : T) : logic.all [value] = value := by
    rw [Logic.all_cons]
    exact logic.and_yes value
  rw [meaning, ← scope_value, Logic.all_append, Logic.all_append, single, ← chainOf_value,
    ← pinValues]
  cases purpose with
  | testcases | sessions =>
      rw [conditionsOf, List.map_append, List.map_append, Logic.all_append, Logic.all_append]
      nofun
  | groups =>
      rw [conditionsOf, List.map_append, List.map_append, Logic.all_append, Logic.all_append,
        logic.and_assoc, logic.and_assoc, logic.and_comm (logic.all (pins.map _))]

end

/-- Once its values are in their places, a plan reads as it was written. -/
theorem innerConditions?_eq (plan : Plan) :
    plan.innerConditions? = some (Lexeme.innerConditions
      (Fragment.written plan.settings.dialect plan.settings.tables plan.statement.fragments)) :=
  congrArg (Option.map Lexeme.innerConditions) plan.filled?_eq

theorem rowsOf_ordered {query : Query} {purpose : Purpose} (conditions : List Condition)
    (keyed : purpose = .groups → keysOf query ≠ []) :
    (rowsOf query conditions purpose).ordering ≠ [] := by
  cases purpose with
  | testcases => nofun
  | sessions => nofun
  | groups =>
      rw [rowsOf, groupRows]
      cases keys : keysOf query with
      | nil => exact absurd keys (keyed rfl)
      | cons key others => cases key <;> nofun

theorem conditionsOf_ne_nil (owner : Uuid) (query : Query) (purpose : Purpose)
    (pins : List Condition) : conditionsOf owner query purpose pins ≠ [] := by
  cases purpose <;> exact List.cons_ne_nil _ _

/-- The inner conditions of a plan are those of its rows. -/
theorem innerConditions?_assembled (settings : Settings) (owner : Uuid) {query : Query}
    {purpose : Purpose} (page : Page) (pins : List Condition)
    (keyed : purpose = .groups → keysOf query ≠ []) :
    (assembled settings owner query purpose page pins).innerConditions? =
      some ((rowsOf query (conditionsOf owner query purpose pins) purpose).writtenConditions
        settings.dialect settings.tables) := by
  have conditioned : (rowsOf query (conditionsOf owner query purpose pins) purpose).conditions ≠
      [] := by
    rw [rowsOf_conditions]
    exact conditionsOf_ne_nil owner query purpose pins
  rw [innerConditions?_eq]
  exact congrArg some (innerConditions_paged settings.dialect settings.tables conditioned
    (rowsOf_ordered _ keyed))

/-- The conditions of the rows, as one formula. -/
theorem assembled_reads (settings : Settings) (owner : Uuid) (query : Query) (purpose : Purpose)
    (page : Page) (pins : List Condition) (keyed : purpose = .groups → keysOf query ≠ []) :
    ∃ clause formula,
      (assembled settings owner query purpose page pins).innerConditions? = some clause ∧
      Reads .disjunction clause formula ∧
      ∀ {T : Type} (logic : Logic T) (truth : Atom → T), formula.eval logic truth =
        logic.all ((conditionsOf owner query purpose pins).map
          (conditionValue settings logic truth)) := by
  rcases List.exists_cons_of_ne_nil (conditionsOf_ne_nil owner query purpose pins) with
    ⟨first, others, listed⟩
  have conditions := (rowsOf_conditions query (conditionsOf owner query purpose pins) purpose).trans
    listed
  refine ⟨_, conjoined settings.dialect settings.tables first others,
    innerConditions?_assembled settings owner page pins keyed,
    Select.reads_conditions settings.dialect settings.tables conditions, ?_⟩
  intro T logic truth
  rw [listed]
  exact eval_conjoined settings.dialect settings.tables logic truth first others

/-- The inner conditions of a plan mean what its query says.  They can be read in one
way only, and what is read is as true as the query, whatever the truth of the single
tests and whether or not a test may be neither true nor false. -/
theorem conditions_mean_query {settings : Settings} {owner : Uuid} {query : Query}
    {purpose : Purpose} {plan : Plan}
    (success : ofQuery settings owner query purpose = .ok plan) :
    ∃ clause formula pins,
      plan.innerConditions? = some clause ∧
      (∀ other, Reads .disjunction clause other ↔ other = formula) ∧
      selectorAtoms? settings query purpose = some pins ∧
      (∀ truth : Atom → Bool, formula.eval .twoValued truth =
        meaning settings .twoValued owner query purpose pins truth) ∧
      (∀ truth : Atom → Truth, formula.eval .threeValued truth =
        meaning settings .threeValued owner query purpose pins truth) := by
  obtain ⟨page, pins, -, pinned, keyed, rfl⟩ := assembled_of_ok success
  obtain ⟨atoms, selected, same⟩ := pinsOf_atoms settings pinned
  obtain ⟨clause, formula, found, read, value⟩ :=
    assembled_reads settings owner query purpose page pins keyed
  refine ⟨clause, formula, atoms, found, fun other => ⟨(read.unique · |>.symm), ?_⟩, selected,
    fun truth => ?_, fun truth => ?_⟩
  · rintro rfl
    exact read
  · rw [value, conditionsOf_value settings _ truth owner query purpose same]
  · rw [value, conditionsOf_value settings _ truth owner query purpose same]

/-- A dated query for one group, whose chain would mean something else if "and" were to
bind more tightly than "or". -/
def mixedQuery : Query where
  chain := [⟨.and, some (.text .name .equal "a")⟩, ⟨.or, none⟩,
    ⟨.or, some (.text .name .equal "b")⟩, ⟨.and, some (.tagged .notEqual "slow")⟩]
  groupBy := some [.tag "os", .session]
  selector := some ["linux", "00000000-0000-0000-0000-000000000000"]
  startDate := Timestamp.ofFields? 2024 2 29 0 0 0

/-- Where all tests but that for the label succeed, the query asks for nothing. -/
theorem conditions_mean_query_mixed :
    ∃ plan clause formula, ofQuery {} .nil mixedQuery .groups = .ok plan ∧
      plan.innerConditions? = some clause ∧ Reads .disjunction clause formula ∧
      formula.eval .twoValued
        (· != predicateAtom {} .groups (.tagged .notEqual "slow")) = false := by
  have planned : ofQuery {} .nil mixedQuery .groups = .ok _ := rfl
  obtain ⟨clause, formula, pins, found, reads, selected, value, -⟩ := conditions_mean_query planned
  cases selected
  exact ⟨_, clause, formula, planned, found, (reads formula).mpr rfl, (value _).trans (by decide)⟩

end Plan
end TestQuery
