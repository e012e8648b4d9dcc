import TestQuery.Plan.Listing

namespace TestQuery
namespace Plan

open Sql

/-!
# Lookups

Plans for one record, or for the labels of one session, that the owner owns.
-/

/-- The row of a table with a given id in a column, owned by the owner. -/
def ownedRow (table : Table) (column : Column) (id owner : Uuid) : List Condition :=
  [.test (.compare (table.col column) .equal (.id id)),
    .test (.compare (table.col .userId) .equal (.id owner))]

def testcaseLookup (settings : Settings) (owner id : Uuid) : Plan where
  kind := .testcaseDetail
  settings := settings
  statement := .plain {
    projections := [.all (.table .testcases)]
    source := .table .testcases
    conditions := ownedRow .testcases .id id owner
    limit := some 1 }

/-- One session, with the worst status of its testcases. -/
def sessionLookup (settings : Settings) (owner id : Uuid) : Plan where
  kind := .sessionDetail
  settings := settings
  statement := .plain (sessionRows (ownedRow .sessions .id id owner))

/-- The labels of a session, by key. -/
def labelLookup (settings : Settings) (owner session : Uuid) : Plan where
  kind := .labels
  settings := settings
  statement := .plain {
    projections := [.column (Table.labels.col .key), .column (Table.labels.col .value)]
    source := .table .labels
    conditions := ownedRow .labels .sessionId session owner
    ordering := [(Table.labels.col .key, .ascending)] }

end Plan
end TestQuery
