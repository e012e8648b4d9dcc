import TestQuery.Plan
import TestQuery.Query.Error
import TestQuery.Uuid.Reading

namespace TestQuery
namespace Plan

open Sql

/-!
# Filters

The conditions that a query puts on rows.  Predicates about the session and its
tags look at `sessionKey`, the column that holds the id of the session; all other
predicates look at the testcase.
-/

def comparisonOf : Equality → Comparison
  | .equal => .equal
  | .notEqual => .notEqual

def textColumn : TextField → Column
  | .name => .name
  | .classname => .classname
  | .testsuite => .testsuite
  | .file => .file

/-- A predicate as a test of rows. -/
def testOf (sessionKey : ColumnRef) : Predicate → Test
  | .session comparison id => .compare sessionKey (comparisonOf comparison) (.id id)
  | .testcase comparison id =>
    .compare (Table.testcases.col .id) (comparisonOf comparison) (.id id)
  | .text field comparison value =>
    .compare (Table.testcases.col (textColumn field)) (comparisonOf comparison) (.text value)
  | .status comparison outcome =>
    .compare (Table.testcases.col .status) (comparisonOf comparison) (.status outcome)
  | .tagged comparison tag => .labelled sessionKey comparison tag none
  | .taggedWith comparison tag value => .labelled sessionKey comparison tag (some value)

/-- Join tests to a condition from left to right. -/
def joinTests (start : Condition) (tests : List (Connective × Test)) : Condition :=
  tests.foldl (fun condition test => .joined condition test.1 test.2) start

/-- The condition of a chain: its predicates joined strictly from left to right.
The connective of the first predicate joins it to nothing. -/
def chainCondition (sessionKey : ColumnRef) (query : Query) : Option Condition :=
  match query.predicates with
  | [] => none
  | (_, first) :: others =>
    some (joinTests (.test (testOf sessionKey first))
      (others.map fun (connective, predicate) => (connective, testOf sessionKey predicate)))

/-- The chain of a query, which has to begin with the connective that stands for
none. -/
def filter (sessionKey : ColumnRef) (query : Query) : Except Query.Error (List Condition) :=
  match query.chain with
  | ⟨.or, _⟩ :: _ => .error (.invariant .firstConnective)
  | _ => .ok (chainCondition sessionKey query).toList

/-- Only rows of the owner, and only those created within the dates. -/
def scope (owner : Uuid) (table : Table) (query : Query) : List Condition :=
  [.test (.compare (table.col .userId) .equal (.id owner))] ++
    (query.startDate.map fun moment =>
      Condition.test (.compare (table.col .createdAt) .atLeast (.moment moment))).toList ++
    (query.endDate.map fun moment =>
      Condition.test (.compare (table.col .createdAt) .atMost (.moment moment))).toList

/-- The session that a selector names. -/
def selectedSession (value : String) : Except Query.Error Uuid :=
  match Uuid.ofText? value.toList with
  | some id => .ok id
  | none => .error (.unplannable (.invalidSelector value))

/-- The rows whose group key has the selected value, in a list. -/
def listPin (sessionKey : ColumnRef) (key : GroupKey) (value : String) :
    Except Query.Error Condition :=
  match key with
  | .session =>
    match selectedSession value with
    | .ok id => .ok (.test (.compare sessionKey .equal (.id id)))
    | .error error => .error error
  | .tag tag => .ok (.test (.labelled sessionKey .equal tag (some value)))

/-- The conditions that pin a grouped list to one group. -/
def listPins (sessionKey : ColumnRef) (query : Query) : Except Query.Error (List Condition) :=
  match query.groupBy, query.selector with
  | none, _ => .ok []
  | some _, none => .error (.invariant .selectorMismatch)
  | some keys, some values =>
    if values.length = keys.length then
      (keys.zip values).mapM fun (key, value) => listPin sessionKey key value
    else .error (.invariant .selectorMismatch)

end Plan
end TestQuery
