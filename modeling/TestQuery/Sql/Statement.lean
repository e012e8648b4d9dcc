import TestQuery.Query
import TestQuery.Sql.Value

namespace TestQuery
namespace Sql

/-!
# Statements

The statements that queries are planned as, by their parts.  Their text, their
parameters and what they select are separate functions of this one description.
-/

/-- The stored tables. -/
inductive Table where
  | sessions
  | testcases
  | labels
deriving DecidableEq, Repr

/-- The names under which the tables are stored. -/
structure TableNames where
  sessions : String := "sessions"
  testcases : String := "testcases"
  labels : String := "labels"
deriving DecidableEq, Repr

def TableNames.get (names : TableNames) : Table → String
  | .sessions => names.sessions
  | .testcases => names.testcases
  | .labels => names.labels

/-- What a column can be taken from. -/
inductive Relation where
  /-- A stored table. -/
  | table (table : Table)
  /-- The labels joined for one key, numbered from zero. -/
  | label (number : Nat)
  /-- The rows that a page is cut from. -/
  | page
deriving DecidableEq, Repr

/-- The columns of the tables and of the results. -/
inductive Column where
  | id
  | userId
  | sessionId
  | name
  | classname
  | testsuite
  | file
  | status
  | createdAt
  | key
  | value
  | aggregatedStatus
  | totalCount
  | testcaseCount
  /-- The value of the group key at a position. -/
  | group (position : Nat)
deriving DecidableEq, Repr

def Column.spelling : Column → String
  | .id => "id"
  | .userId => "user_id"
  | .sessionId => "session_id"
  | .name => "name"
  | .classname => "classname"
  | .testsuite => "testsuite"
  | .file => "file"
  | .status => "status"
  | .createdAt => "created_at"
  | .key => "key"
  | .value => "value"
  | .aggregatedStatus => "aggregated_status"
  | .totalCount => "total_count"
  | .testcaseCount => "testcase_count"
  | .group position => s!"group_{position}"

/-- A column of a relation. -/
structure ColumnRef where
  relation : Relation
  column : Column
deriving DecidableEq, Repr

namespace Table

def col (table : Table) (column : Column) : ColumnRef :=
  ⟨.table table, column⟩

end Table

/-- The comparisons of a column with a parameter. -/
inductive Comparison where
  | equal
  | notEqual
  | atLeast
  | atMost
deriving DecidableEq, Repr

/-- A test of one row. -/
inductive Test where
  /-- Compare a column with a parameter. -/
  | compare (column : ColumnRef) (comparison : Comparison) (parameter : Parameter)
  /-- Is the column, or is it not, the session of a label with this key, and with
  this value if one is given? -/
  | labelled (column : ColumnRef) (comparison : Equality) (key : String) (value : Option String)
deriving DecidableEq

/-- A test, or a condition joined with one more test. -/
inductive Condition where
  | test (test : Test)
  | joined (left : Condition) (connective : Connective) (right : Test)
deriving DecidableEq

/-- The rows of a table that match the rows before them. -/
structure Join where
  /-- Keep rows that nothing matches. -/
  outer : Bool
  table : Table
  /-- The number of a table of labels that is joined for a group key. -/
  number : Option Nat
  /-- The two columns that have to be equal. -/
  left : ColumnRef
  right : ColumnRef
  /-- Further tests of the joined row. -/
  tests : List Test
deriving DecidableEq

/-- What a statement gives for each row or group of rows. -/
inductive Projection where
  /-- All columns of a relation. -/
  | all (relation : Relation)
  | column (column : ColumnRef)
  | renamed (column : ColumnRef) (as : Column)
  /-- The least value of a column in the group. -/
  | least (column : ColumnRef) (as : Column)
  /-- The number of different values of a column in the group. -/
  | countDistinct (column : ColumnRef) (as : Column)
  /-- The number of rows before the page is cut. -/
  | countRows (as : Column)
  /-- The least value of a column before the page is cut. -/
  | leastOfRows (column : ColumnRef) (as : Column)
deriving DecidableEq

inductive Direction where
  | ascending
  | descending
deriving DecidableEq, Repr

structure Select where
  projections : List Projection
  source : Relation
  joins : List Join := []
  /-- All of these hold of a selected row. -/
  conditions : List Condition := []
  grouping : List ColumnRef := []
  ordering : List (ColumnRef × Direction) := []
  limit : Option Nat := none
  offset : Option Nat := none
deriving DecidableEq

/-- A statement: a selection, or a page cut from the rows of another selection. -/
inductive Statement where
  | plain (select : Select)
  | paged (rows : Select) (page : Select)
deriving DecidableEq

end Sql
end TestQuery
