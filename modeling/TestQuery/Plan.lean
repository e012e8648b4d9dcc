import TestQuery.Query.Error
import TestQuery.Sql.Fragment

namespace TestQuery

/-!
# Plans

A plan is a statement with all that is needed to run it and to read its rows.
-/

/-! ## Settings -/

/-- The database that statements are written for, and the names of its tables. -/
structure Settings where
  dialect : Sql.Dialect := .postgres
  tables : Sql.TableNames := {}
deriving DecidableEq, Repr

namespace Plan

/-! ## Pages -/

/-- A window: how many rows are left out before it, and how many it has at most. -/
structure Page where
  offset : Nat
  limit : Nat
deriving DecidableEq, Repr

/-- The window that a query asks for.  Zero asks for the usual size. -/
def Page.ofQuery (offset limit : Int) : Except Query.PlanFault Page :=
  if offset < 0 then .error .negativeOffset
  else if limit = 0 then .ok ⟨offset.toNat, Query.usualLimit⟩
  else if limit < 0 then .error .negativeLimit
  else if limit > Query.greatestLimit then .error .excessiveLimit
  else .ok ⟨offset.toNat, limit.toNat⟩

/-! ## Statements with their rows -/

/-- What the rows of a plan are. -/
inductive RecordKind where
  | testcases
  | sessions
  | groups
  | testcaseDetail
  | sessionDetail
  | labels
deriving DecidableEq, Repr

/-- A column of an enumeration of groups. -/
structure GroupColumn where
  position : Nat
  key : GroupKey
deriving DecidableEq

def GroupColumn.column (groupColumn : GroupColumn) : Sql.Column :=
  .group groupColumn.position

def GroupColumn.resultName (groupColumn : GroupColumn) : String :=
  groupColumn.column.spelling

end Plan

/-- A statement for a database, and what it is for. -/
structure Plan where
  kind : Plan.RecordKind
  settings : Settings
  statement : Sql.Statement
  /-- Empty unless the plan enumerates groups. -/
  groupColumns : List Plan.GroupColumn := []
  /-- Absent for lookups. -/
  page : Option Plan.Page := none
deriving DecidableEq

namespace Plan

def sql (plan : Plan) : String :=
  Sql.Fragment.render plan.settings.dialect plan.settings.tables plan.statement.fragments

def parameters (plan : Plan) : List Sql.Parameter :=
  Sql.Fragment.parameters plan.statement.fragments

/-- The values bound to the statement, in the order of their places. -/
def values (plan : Plan) : List Sql.Value :=
  plan.parameters.map plan.settings.dialect.bind

end Plan

end TestQuery
