import TestQuery.Proofs.Plan.Planned
import TestQuery.Proofs.Sql.Outline

namespace TestQuery

/-!
# The text of a plan shows only the shape of its query

The shape of a query leaves out all that its author can choose freely: names, tags,
ids, statuses, dates, the values of a selector, the size of the page and how far it
is from the start.  Two queries of one shape that are both planned for the same
purpose have plans with the same text, whoever their owners are.  So no value can
change what a statement does other than by being bound to it.
-/

/-! ## Shapes -/

/-- What a predicate is about. -/
inductive Predicate.Kind where
  | session
  | testcase
  | text (field : TextField)
  | status
  | tagged
  | taggedWith
deriving DecidableEq

/-- What a predicate is about and how it compares. -/
def Predicate.kind : Predicate → Predicate.Kind × Equality
  | .session comparison _ => (.session, comparison)
  | .testcase comparison _ => (.testcase, comparison)
  | .text field comparison _ => (.text field, comparison)
  | .status comparison _ => (.status, comparison)
  | .tagged comparison _ => (.tagged, comparison)
  | .taggedWith comparison _ _ => (.taggedWith, comparison)

/-- What a key groups by. -/
inductive GroupKey.Kind where
  | session
  | tag
deriving DecidableEq

def GroupKey.kind : GroupKey → GroupKey.Kind
  | .session => .session
  | .tag _ => .tag

/-- What is left of a query without its values. -/
structure Query.Shape where
  links : List (Connective × Option (Predicate.Kind × Equality))
  keys : List GroupKey.Kind
  selected : Bool
  started : Bool
  ended : Bool
  /-- Rows are left out before the page. -/
  skips : Bool
deriving DecidableEq

/-- The shape of a query.  To group by nothing is not to group. -/
def Query.shape (query : Query) : Query.Shape where
  links := query.chain.map fun link => (link.connective, link.predicate.map Predicate.kind)
  keys := (query.groupBy.getD []).map GroupKey.kind
  selected := query.selector.isSome
  started := query.startDate.isSome
  ended := query.endDate.isSome
  skips := decide (0 < query.offset)

namespace Plan

open Sql
open Query (Purpose)

/-! ## Conditions of one shape -/

theorem testOf_outline {first second : Predicate} (same : first.kind = second.kind)
    (key : ColumnRef) : (testOf key first).outline = (testOf key second).outline := by
  cases first <;> cases second <;> cases same <;> rfl

theorem joinTests_outline {first second : List (Connective × Predicate)}
    (same : first.map (fun link => (link.1, link.2.kind)) =
      second.map (fun link => (link.1, link.2.kind)))
    (key : ColumnRef) {start other : Condition} (sameStart : start.outline = other.outline) :
    (joinTests start (first.map fun link => (link.1, testOf key link.2))).outline =
      (joinTests other (second.map fun link => (link.1, testOf key link.2))).outline := by
  induction first generalizing second start other with
  | nil =>
      cases List.map_eq_nil_iff.mp same.symm
      exact sameStart
  | cons link links inductionHypothesis =>
      cases second with
      | nil => cases same
      | cons otherLink otherLinks =>
          rcases List.cons.inj same with ⟨head, tail⟩
          rcases Prod.mk.inj head with ⟨connective, kind⟩
          apply inductionHypothesis tail
          rw [Condition.outline, Condition.outline, sameStart, connective, testOf_outline kind]

theorem predicates_kinds {first second : Query} (same : first.shape = second.shape) :
    first.predicates.map (fun link => (link.1, link.2.kind)) =
      second.predicates.map (fun link => (link.1, link.2.kind)) := by
  have ofLinks (query : Query) : query.predicates.map (fun link => (link.1, link.2.kind)) =
      query.shape.links.filterMap fun link => link.2.map (link.1, ·) := by
    rw [Query.predicates, Query.shape, List.map_filterMap, List.filterMap_map]
    congr 1
    funext link
    rcases link with ⟨connective, _ | predicate⟩ <;> rfl
  rw [ofLinks, ofLinks, same]

theorem chainOf_outline {first second : Query} (same : first.shape = second.shape)
    (purpose : Purpose) :
    (chainOf purpose first).map Condition.outline =
      (chainOf purpose second).map Condition.outline := by
  have kinds := predicates_kinds same
  rw [chainOf, chainOf, chainCondition, chainCondition]
  cases firstPredicates : first.predicates with
  | nil =>
      rw [firstPredicates] at kinds
      rw [List.map_eq_nil_iff.mp kinds.symm]
  | cons link links =>
      cases secondPredicates : second.predicates with
      | nil =>
          rw [firstPredicates, secondPredicates] at kinds
          cases kinds
      | cons otherLink otherLinks =>
          rw [firstPredicates, secondPredicates] at kinds
          rcases List.cons.inj kinds with ⟨head, tail⟩
          have start := testOf_outline (Prod.mk.inj head).2 (sessionKey purpose)
          exact congrArg (fun condition => [condition])
            (joinTests_outline tail (sessionKey purpose) (congrArg Condition.test start))

theorem scope_outline {first second : Query} (same : first.shape = second.shape)
    (owner other : Uuid) (table : Table) :
    (scope owner table first).map Condition.outline =
      (scope other table second).map Condition.outline := by
  have started : first.startDate.isSome = second.startDate.isSome :=
    congrArg Query.Shape.started same
  have ended : first.endDate.isSome = second.endDate.isSome := congrArg Query.Shape.ended same
  have dates (operator : Comparison) {date otherDate : Option Timestamp}
      (present : date.isSome = otherDate.isSome) :
      ((date.map fun moment =>
        Condition.test (.compare (table.col .createdAt) operator (.moment moment))).toList).map
          Condition.outline =
      ((otherDate.map fun moment =>
        Condition.test (.compare (table.col .createdAt) operator (.moment moment))).toList).map
          Condition.outline := by
    cases date <;> cases otherDate <;> cases present <;> rfl
  rw [scope, scope, List.map_append, List.map_append, List.map_append, List.map_append,
    dates _ started, dates _ ended]
  rfl

/-! ## Keys of one shape -/

theorem keyColumns_kinds {first second : List GroupKey}
    (same : first.map GroupKey.kind = second.map GroupKey.kind) (number : Nat) :
    keyColumns number first = keyColumns number second := by
  induction first generalizing second number with
  | nil => rw [List.map_eq_nil_iff.mp same.symm]
  | cons key keys inductionHypothesis =>
      cases second with
      | nil => cases same
      | cons otherKey otherKeys =>
          rcases List.cons.inj same with ⟨head, tail⟩
          cases key <;> cases otherKey <;> cases head <;>
            exact congrArg (_ :: ·) (inductionHypothesis tail _)

theorem keyJoins_outline {first second : List GroupKey}
    (same : first.map GroupKey.kind = second.map GroupKey.kind) (number : Nat) :
    (keyJoins number first).map Join.outline = (keyJoins number second).map Join.outline := by
  induction first generalizing second number with
  | nil => rw [List.map_eq_nil_iff.mp same.symm]
  | cons key keys inductionHypothesis =>
      cases second with
      | nil => cases same
      | cons otherKey otherKeys =>
          rcases List.cons.inj same with ⟨head, tail⟩
          cases key <;> cases otherKey <;> cases head
          · exact inductionHypothesis tail number
          · exact congrArg (_ :: ·) (inductionHypothesis tail (number + 1))

/-! ## Pins of one shape -/

/-- What is written to pin keys of the given kinds. -/
def pinOutlines (purpose : Purpose) : (number : Nat) → List GroupKey.Kind → List Condition
  | _, [] => []
  | number, .session :: kinds =>
    .test (.compare (sessionKey purpose) .equal (.count 0)) :: pinOutlines purpose number kinds
  | number, .tag :: kinds =>
    .test (tagTest purpose number "" "").outline :: pinOutlines purpose (number + 1) kinds

theorem pinned_outline {purpose : Purpose} {number : Nat} {keys : List GroupKey}
    {values : List String} {pins : List Condition}
    (pinned : Pinned purpose number keys values pins) :
    pins.map Condition.outline = pinOutlines purpose number (keys.map GroupKey.kind) := by
  induction pinned with
  | nil => rfl
  | session named others inductionHypothesis => exact congrArg (_ :: ·) inductionHypothesis
  | tag others inductionHypothesis =>
      rw [List.map_cons, inductionHypothesis]
      cases purpose <;> rfl

theorem selection_kinds (query : Query) :
    (selection query).1.map GroupKey.kind =
      if query.shape.selected then query.shape.keys else [] := by
  rw [selection, Query.shape]
  cases query.groupBy <;> cases query.selector <;> rfl

theorem pinsOf_outline {query : Query} {purpose : Purpose} {pins : List Condition}
    (success : pinsOf query purpose = .ok pins) :
    pins.map Condition.outline =
      pinOutlines purpose 0 (if query.shape.selected then query.shape.keys else []) := by
  rw [pinned_outline (pinned_of_ok success), selection_kinds]

/-! ## Plans of one shape -/

theorem conditionsOf_outline {first second : Query} (same : first.shape = second.shape)
    (owner other : Uuid) (purpose : Purpose) {pins otherPins : List Condition}
    (pinned : pinsOf first purpose = .ok pins)
    (otherPinned : pinsOf second purpose = .ok otherPins) :
    (conditionsOf owner first purpose pins).map Condition.outline =
      (conditionsOf other second purpose otherPins).map Condition.outline := by
  have samePins : pins.map Condition.outline = otherPins.map Condition.outline := by
    rw [pinsOf_outline pinned, pinsOf_outline otherPinned, same]
  cases purpose <;>
    simp only [conditionsOf, List.map_append, scope_outline same owner other,
      chainOf_outline same, samePins]

theorem rowsOf_outline {first second : Query} (same : first.shape = second.shape)
    (purpose : Purpose) {conditions others : List Condition}
    (sameConditions : conditions.map Condition.outline = others.map Condition.outline) :
    (rowsOf first conditions purpose).outline = (rowsOf second others purpose).outline := by
  have keys : (keysOf first).map GroupKey.kind = (keysOf second).map GroupKey.kind :=
    congrArg Query.Shape.keys same
  cases purpose with
  | testcases => simp only [rowsOf, testcaseRows, Select.outline, sameConditions]
  | sessions => simp only [rowsOf, sessionRows, Select.outline, sameConditions]
  | groups =>
      simp only [rowsOf, groupRows, Select.outline, sameConditions, keyColumns_kinds keys,
        keyJoins_outline keys]

theorem pageSelect_outline {page other : Page} (same : page.offset = 0 ↔ other.offset = 0)
    (projections : List Projection) (ordering : List (ColumnRef × Direction)) :
    (pageSelect page projections ordering).outline =
      (pageSelect other projections ordering).outline := by
  by_cases start : page.offset = 0
  · simp only [pageSelect, Select.outline, start, same.mp start]
    rfl
  · simp only [pageSelect, Select.outline, start, mt same.mpr start]
    rfl

theorem groupColumnsOf_columns (keys : List GroupKey) :
    (groupColumnsOf keys).map GroupColumn.column = (List.range keys.length).map Column.group := by
  rw [groupColumnsOf]
  apply List.ext_getElem
  · simp only [List.length_mapIdx, List.length_map, List.length_range]
  · intro position inMapped inRange
    simp only [List.getElem_mapIdx, List.getElem_map, List.getElem_range]
    rfl

theorem windowOf_outline {first second : Query} (same : first.shape = second.shape)
    (purpose : Purpose) {page other : Page} (paged : pageOf first = .ok page)
    (otherPaged : pageOf second = .ok other) :
    (windowOf first page purpose).outline = (windowOf second other purpose).outline := by
  have skips : (0 < first.offset) ↔ (0 < second.offset) := by
    have decided : decide (0 < first.offset) = decide (0 < second.offset) :=
      congrArg Query.Shape.skips same
    simpa only [decide_eq_decide] using decided
  have start : page.offset = 0 ↔ other.offset = 0 := by
    rw [(pageOf_eq_ok paged).1, (pageOf_eq_ok otherPaged).1]
    omega
  have ordering (query : Query) : (groupColumnsOf (keysOf query)).map
        (fun column => (pageColumn column.column, Direction.ascending)) =
      (List.range ((keysOf query).map GroupKey.kind).length).map
        (fun position => (pageColumn (.group position), Direction.ascending)) := by
    have columns := congrArg (List.map fun column => (pageColumn column, Direction.ascending))
      (groupColumnsOf_columns (keysOf query))
    rw [List.map_map, List.map_map] at columns
    rw [List.length_map]
    exact columns
  have keys : (keysOf first).map GroupKey.kind = (keysOf second).map GroupKey.kind :=
    congrArg Query.Shape.keys same
  cases purpose with
  | testcases => exact pageSelect_outline start _ _
  | sessions => exact pageSelect_outline start _ _
  | groups =>
      rw [windowOf, windowOf, ordering, ordering, keys]
      exact pageSelect_outline start _ _

theorem assembled_outline {first second : Query} (same : first.shape = second.shape)
    (settings : Settings) (owner other : Uuid) (purpose : Purpose) {page otherPage : Page}
    {pins otherPins : List Condition} (paged : pageOf first = .ok page)
    (otherPaged : pageOf second = .ok otherPage) (pinned : pinsOf first purpose = .ok pins)
    (otherPinned : pinsOf second purpose = .ok otherPins) :
    (assembled settings owner first purpose page pins).statement.outline =
      (assembled settings other second purpose otherPage otherPins).statement.outline := by
  have rows := rowsOf_outline same purpose
    (conditionsOf_outline same owner other purpose pinned otherPinned)
  have window := windowOf_outline same purpose paged otherPaged
  rw [assembled, assembled, Statement.outline, Statement.outline, rows, window]

/-- No value reaches the text of a statement.  Queries of one shape have plans with one
text, and so have all lookups of one kind. -/
theorem text_depends_on_shape (settings : Settings) :
    (∀ (purpose : Purpose) (owner other : Uuid) (first second : Query) (plan otherPlan : Plan),
      first.shape = second.shape →
      ofQuery settings owner first purpose = .ok plan →
      ofQuery settings other second purpose = .ok otherPlan →
      plan.sql = otherPlan.sql) ∧
    (∀ owner id other otherId : Uuid,
      (testcaseLookup settings owner id).sql = (testcaseLookup settings other otherId).sql ∧
      (sessionLookup settings owner id).sql = (sessionLookup settings other otherId).sql ∧
      (labelLookup settings owner id).sql = (labelLookup settings other otherId).sql) := by
  constructor
  · intro purpose owner other first second plan otherPlan same success otherSuccess
    rcases assembled_of_ok success with ⟨page, pins, paged, pinned, -, rfl⟩
    rcases assembled_of_ok otherSuccess with ⟨otherPage, otherPins, otherPaged, otherPinned, -, rfl⟩
    exact Statement.render_eq_of_outline
      (assembled_outline same settings owner other purpose paged otherPaged pinned otherPinned) _ _
  · intro owner id other otherId
    have testcases : (testcaseLookup settings owner id).statement.outline =
        (testcaseLookup settings other otherId).statement.outline := rfl
    have sessions : (sessionLookup settings owner id).statement.outline =
        (sessionLookup settings other otherId).statement.outline := rfl
    have labels : (labelLookup settings owner id).statement.outline =
        (labelLookup settings other otherId).statement.outline := rfl
    exact ⟨Statement.render_eq_of_outline testcases settings.dialect settings.tables,
      Statement.render_eq_of_outline sessions settings.dialect settings.tables,
      Statement.render_eq_of_outline labels settings.dialect settings.tables⟩

/-- A query for one group of testcases, with a given text wherever one can be chosen. -/
def chosenQuery (text : String) (limit offset : Int) : Query where
  chain := [⟨.and, some (.text .name .notEqual text)⟩, ⟨.or, some (.taggedWith .equal text text)⟩]
  groupBy := some [.tag text]
  selector := some [text]
  limit := limit
  offset := offset

/-- Quotes, marks and comments in the values of a query leave its text as it is. -/
theorem text_depends_on_shape_hostile :
    ∃ plan otherPlan,
      ofQuery { dialect := .mysql } .nil (chosenQuery "a" 0 1) .groups = .ok plan ∧
      ofQuery { dialect := .mysql } .nil (chosenQuery "'; DROP TABLE labels; -- ?`\"" 7 40)
        .groups = .ok otherPlan ∧
      plan.sql = otherPlan.sql :=
  ⟨_, _, rfl, rfl, (text_depends_on_shape _).1 .groups .nil .nil (chosenQuery "a" 0 1)
    (chosenQuery "'; DROP TABLE labels; -- ?`\"" 7 40) _ _ (by decide) rfl rfl⟩

end Plan
end TestQuery
