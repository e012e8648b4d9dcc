import TestQuery.Plan.Filter
import TestQuery.Query.Purpose

namespace TestQuery
namespace Plan

open Sql

/-!
# Lists and enumerations

The plan of a query for each purpose.  The rows are selected first; the page is
cut from them and counts them all.
-/

/-- The page of the given rows, with their total number. -/
def pageSelect (page : Page) (projections : List Projection)
    (ordering : List (ColumnRef × Direction)) : Select where
  projections := [.all .page, .countRows .totalCount] ++ projections
  source := .page
  ordering := ordering
  limit := some page.limit
  offset := if page.offset = 0 then none else some page.offset

/-- A column of the rows that a page is cut from. -/
def pageColumn (column : Column) : ColumnRef :=
  ⟨.page, column⟩

def pageOf (query : Query) : Except Query.Error Page :=
  (Page.ofQuery query.offset query.limit).mapError .unplannable

/-! ## Testcases -/

/-- The testcases that meet the conditions, the newest first. -/
def testcaseRows (conditions : List Condition) : Select where
  projections := [.all (.table .testcases)]
  source := .table .testcases
  conditions := conditions
  ordering := [(Table.testcases.col .createdAt, .descending)]

/-- Plan a list of testcases, with the worst status of them all. -/
def testcases (settings : Settings) (owner : Uuid) (query : Query) : Except Query.Error Plan := do
  let page ← pageOf query
  let sessionKey := Table.testcases.col .sessionId
  let filter ← filter sessionKey query
  let pins ← listPins sessionKey query
  return {
    kind := .testcases
    settings := settings
    statement := .paged
      (testcaseRows (scope owner .testcases query ++ filter ++ pins))
      (pageSelect page [.leastOfRows (pageColumn .status) .aggregatedStatus]
        [(pageColumn .createdAt, .descending)])
    page := some page }

/-! ## Sessions -/

/-- The testcases of a session; a session without any is kept. -/
def testcasesOfSession : Join where
  outer := true
  table := .testcases
  number := none
  left := Table.sessions.col .id
  right := Table.testcases.col .sessionId
  tests := []

/-- The sessions that meet the conditions, each with the worst status of its
testcases. -/
def sessionRows (conditions : List Condition) : Select where
  projections :=
    [.all (.table .sessions), .least (Table.testcases.col .status) .aggregatedStatus]
  source := .table .sessions
  joins := [testcasesOfSession]
  conditions := conditions
  grouping := [Table.sessions.col .id]

/-- Plan a list of sessions, the newest first. -/
def sessions (settings : Settings) (owner : Uuid) (query : Query) : Except Query.Error Plan := do
  let page ← pageOf query
  let sessionKey := Table.sessions.col .id
  let filter ← filter sessionKey query
  let pins ← listPins sessionKey query
  return {
    kind := .sessions
    settings := settings
    statement := .paged
      { sessionRows (scope owner .sessions query ++ filter ++ pins) with
        ordering := [(Table.sessions.col .createdAt, .descending)] }
      (pageSelect page [] [(pageColumn .createdAt, .descending)])
    page := some page }

/-! ## Groups -/

/-- The columns that hold the values of the keys.  Each tag has labels of its own,
numbered in the order of the tags from `number` on. -/
def keyColumns : (number : Nat) → List GroupKey → List ColumnRef
  | _, [] => []
  | number, .session :: keys => Table.testcases.col .sessionId :: keyColumns number keys
  | number, .tag _ :: keys => ⟨.label number, .value⟩ :: keyColumns (number + 1) keys

/-- The labels that hold the values of one tag. -/
def labelJoin (number : Nat) (tag : String) : Join where
  outer := false
  table := .labels
  number := some number
  left := Table.testcases.col .sessionId
  right := ⟨.label number, .sessionId⟩
  tests := [.compare ⟨.label number, .key⟩ .equal (.text tag)]

/-- The labels that the keys need. -/
def keyJoins : (number : Nat) → List GroupKey → List Join
  | _, [] => []
  | number, .session :: keys => keyJoins number keys
  | number, .tag tag :: keys => labelJoin number tag :: keyJoins (number + 1) keys

/-- The rows whose key column has the selected value. -/
def groupPin (key : GroupKey) (column : ColumnRef) (value : String) :
    Except Query.Error Condition :=
  match key with
  | .session =>
    match selectedSession value with
    | .ok id => .ok (.test (.compare column .equal (.id id)))
    | .error error => .error error
  | .tag _ => .ok (.test (.compare column .equal (.text value)))

/-- The conditions that pin an enumeration to one group. -/
def groupPins : List GroupKey → List ColumnRef → List String →
    Except Query.Error (List Condition)
  | key :: keys, column :: columns, value :: values => do
    let pin ← groupPin key column value
    let others ← groupPins keys columns values
    return pin :: others
  | _, _, _ => .ok []

/-- The columns of the enumeration, one for each key. -/
def groupColumnsOf (keys : List GroupKey) : List GroupColumn :=
  keys.mapIdx fun position key => ⟨position, key⟩

/-- The groups of the testcases that meet the conditions, each with the worst
status and the number of its testcases. -/
def groupRows (keys : List GroupKey) (conditions : List Condition) : Select where
  projections :=
    (keyColumns 0 keys).mapIdx (fun position column => .renamed column (.group position)) ++
      [.least (Table.testcases.col .status) .aggregatedStatus,
        .countDistinct (Table.testcases.col .id) .testcaseCount]
  source := .table .testcases
  joins := keyJoins 0 keys
  conditions := conditions
  grouping := keyColumns 0 keys
  ordering := (keyColumns 0 keys).map (·, .ascending)

/-- The keys of an enumeration; there has to be one. -/
def enumerationKeys (query : Query) : Except Query.Error (List GroupKey) :=
  match query.groupBy with
  | none | some [] => .error (.unsuitable .groupByRequired)
  | some keys => .ok keys

/-- The values to which an enumeration is pinned. -/
def enumerationPins (keys : List GroupKey) (query : Query) :
    Except Query.Error (List Condition) :=
  match query.selector with
  | none => .ok []
  | some values =>
    if values.length = keys.length then groupPins keys (keyColumns 0 keys) values
    else .error (.invariant .selectorMismatch)

/-- Plan an enumeration of groups, ordered by the values of their keys. -/
def groups (settings : Settings) (owner : Uuid) (query : Query) : Except Query.Error Plan := do
  let page ← pageOf query
  let keys ← enumerationKeys query
  let pins ← enumerationPins keys query
  let filter ← filter (Table.testcases.col .sessionId) query
  let columns := groupColumnsOf keys
  return {
    kind := .groups
    settings := settings
    statement := .paged
      (groupRows keys (scope owner .testcases query ++ pins ++ filter))
      (pageSelect page [] (columns.map fun column => (pageColumn column.column, .ascending)))
    groupColumns := columns
    page := some page }

/-- The plan of a query for a purpose. -/
def ofQuery (settings : Settings) (owner : Uuid) (query : Query) :
    Query.Purpose → Except Query.Error Plan
  | .testcases => testcases settings owner query
  | .sessions => sessions settings owner query
  | .groups => groups settings owner query

end Plan
end TestQuery
