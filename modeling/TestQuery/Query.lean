import TestQuery.Status
import TestQuery.Timestamp
import TestQuery.Uuid

namespace TestQuery

/-!
# Queries

A query selects testcases, or the sessions they belong to, by a chain of
predicates; it may group them by session or by the value of tags, pin one group,
bound the time of creation and choose a page.
-/

/-- The two comparisons a predicate can make. -/
inductive Equality where
  | equal
  | notEqual
deriving DecidableEq, Repr

/-- How a predicate is joined to those before it. -/
inductive Connective where
  | and
  | or
deriving DecidableEq, Repr

/-- The textual fields of a testcase. -/
inductive TextField where
  | name
  | classname
  | testsuite
  | file
deriving DecidableEq, Repr

/-- One test on a testcase or its session. -/
inductive Predicate where
  /-- The session has, or has not, this id. -/
  | session (comparison : Equality) (id : Uuid)
  /-- The testcase has, or has not, this id. -/
  | testcase (comparison : Equality) (id : Uuid)
  /-- A textual field has, or has not, this value. -/
  | text (field : TextField) (comparison : Equality) (value : String)
  /-- The testcase has, or has not, this status. -/
  | status (comparison : Equality) (outcome : Status)
  /-- The session carries, or does not carry, this tag. -/
  | tagged (comparison : Equality) (tag : String)
  /-- The session carries, or does not carry, this tag with this value. -/
  | taggedWith (comparison : Equality) (tag value : String)
deriving DecidableEq

/-- A link of the chain.  A link without a predicate holds of everything. -/
structure Link where
  connective : Connective
  predicate : Option Predicate
deriving DecidableEq

/-- What testcases are grouped by. -/
inductive GroupKey where
  /-- Their session. -/
  | session
  /-- The value that their session's tag has. -/
  | tag (name : String)
deriving DecidableEq

namespace GroupKey

/-- The key as it is written in a query. -/
def header : GroupKey → String
  | .session => "session_id"
  | .tag name => "#\"" ++ name ++ "\""

end GroupKey

/-- A query.  The defaults ask for the first page of everything. -/
structure Query where
  /-- The chain of predicates, read from left to right. -/
  chain : List Link := [⟨.and, none⟩]
  /-- The keys to group by. -/
  groupBy : Option (List GroupKey) := none
  /-- The values, one for each key, of the one group wanted. -/
  selector : Option (List String) := none
  offset : Int := 0
  /-- The page size; zero asks for the usual one. -/
  limit : Int := 0
  /-- Nothing created before this. -/
  startDate : Option Timestamp := none
  /-- Nothing created after this. -/
  endDate : Option Timestamp := none
deriving DecidableEq

namespace Query

/-- The chain is the single link that holds of everything. -/
def matchesEverything (query : Query) : Bool :=
  match query.chain with
  | [⟨_, none⟩] => true
  | _ => false

/-- The predicates that do select something, each with the connective before it. -/
def predicates (query : Query) : List (Connective × Predicate) :=
  query.chain.filterMap fun link => link.predicate.map (link.connective, ·)

end Query

end TestQuery
