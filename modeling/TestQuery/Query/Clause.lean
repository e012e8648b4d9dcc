import TestQuery.Query
import TestQuery.Query.SyntaxError

namespace TestQuery
namespace Query

/-!
# Clauses

A query is written as clauses in any order: one chain of predicates, and at most
one each of the named clauses.  The query is what its clauses say, with the
defaults for those that are absent.
-/

/-- One clause and what it says. -/
inductive Clause where
  | filter (chain : List Link)
  | groupBy (keys : List GroupKey)
  | group (values : List String)
  | offset (value : Int)
  | limit (value : Int)
  | startDate (moment : Timestamp)
  | endDate (moment : Timestamp)
deriving DecidableEq

namespace Clause

/-- The name of the clause; the filter has none. -/
def name? : Clause → Option ClauseName
  | .filter _ => none
  | .groupBy _ => some .groupBy
  | .group _ => some .group
  | .offset _ => some .offset
  | .limit _ => some .limit
  | .startDate _ => some .startDate
  | .endDate _ => some .endDate

def chain? : Clause → Option (List Link)
  | .filter chain => some chain
  | _ => none

def keys? : Clause → Option (List GroupKey)
  | .groupBy keys => some keys
  | _ => none

def values? : Clause → Option (List String)
  | .group values => some values
  | _ => none

def offset? : Clause → Option Int
  | .offset value => some value
  | _ => none

def limit? : Clause → Option Int
  | .limit value => some value
  | _ => none

def startDate? : Clause → Option Timestamp
  | .startDate moment => some moment
  | _ => none

def endDate? : Clause → Option Timestamp
  | .endDate moment => some moment
  | _ => none

end Clause

/-- The query that the clauses describe.  Each clause is expected once. -/
def ofClauses (clauses : List Clause) : Query where
  chain := (clauses.findSome? Clause.chain?).getD [⟨.and, none⟩]
  groupBy := clauses.findSome? Clause.keys?
  selector := clauses.findSome? Clause.values?
  offset := (clauses.findSome? Clause.offset?).getD 0
  limit := (clauses.findSome? Clause.limit?).getD 0
  startDate := clauses.findSome? Clause.startDate?
  endDate := clauses.findSome? Clause.endDate?

end Query
end TestQuery
