namespace TestQuery

/-!
# Testcase statuses

The outcome of a testcase.  Statuses are stored by rank, the worst first, so
that the least rank of a set of testcases is its worst outcome.
-/

/-- The outcome of a testcase, from worst to least telling. -/
inductive Status where
  | error
  | fail
  | pass
  | skip
deriving DecidableEq, Repr

namespace Status

/-- All statuses, the worst first. -/
def all : List Status :=
  [.error, .fail, .pass, .skip]

/-- The number a status is stored as. -/
def rank : Status → Nat
  | .error => 0
  | .fail => 1
  | .pass => 2
  | .skip => 3

def ofRank? (rank : Int) : Option Status :=
  all.find? fun status => rank == status.rank

def name : Status → String
  | .error => "error"
  | .fail => "fail"
  | .pass => "pass"
  | .skip => "skip"

/-- The status with the given name, spelled exactly. -/
def ofName? (name : String) : Option Status :=
  all.find? fun status => status.name == name

/-- The wording for a name that no status has. -/
def unknownName (name : String) : String :=
  s!"invalid status '{name}', must be one of: pass, fail, error, skip"

/-- The statuses from worst to least telling. -/
def sort (statuses : List Status) : List Status :=
  statuses.mergeSort fun first second => first.rank ≤ second.rank

/-- The worst status, if there is any. -/
def worst? (statuses : List Status) : Option Status :=
  (sort statuses).head?

end Status

end TestQuery
