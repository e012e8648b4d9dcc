import TestQuery.Query
import TestQuery.Query.Error

namespace TestQuery
namespace Query

/-!
# Purposes

The same query can ask for sessions, for testcases, or for the groups that its
keys divide testcases into.  A list may only be grouped when a selector pins one
group; an enumeration of groups needs keys and may have a selector.
-/

/-- What a query is asked for. -/
inductive Purpose where
  | sessions
  | testcases
  | groups
deriving DecidableEq, Repr

namespace Purpose

def name : Purpose → String
  | .sessions => "sessions"
  | .testcases => "testcases"
  | .groups => "groups"

def all : List Purpose :=
  [.sessions, .testcases, .groups]

/-- The name of a purpose in documents. -/
def tag : Purpose → String
  | .sessions => "session_list"
  | .testcases => "testcase_list"
  | .groups => "group_enumeration"

/-- The purpose with the given name in documents. -/
def ofTag? (tag : String) : Option Purpose :=
  all.find? fun purpose => purpose.tag == tag

/-- The purpose that a word names, in any case, in the singular or the plural. -/
def ofName? (word : String) : Option Purpose :=
  match String.ofList (word.toList.map Char.toLower) with
  | "sessions" | "session" => some .sessions
  | "testcases" | "testcase" => some .testcases
  | "groups" | "group" => some .groups
  | _ => none

/-- The wording for a word that names no purpose. -/
def unknownName (word : String) : String :=
  "unknown query type '" ++ String.ofList (word.toList.map Char.toLower) ++
    "', expected sessions, testcases or groups"

end Purpose

/-- The selector, if there is one, has a value for each key. -/
def selectorFits (keys : List GroupKey) : Option (List String) → Except PurposeFault Unit
  | none => .ok ()
  | some values =>
    if values.length = keys.length then .ok () else .error .selectorCountMismatch

def checkList (query : Query) : Except PurposeFault Unit :=
  match query.groupBy with
  | none => .ok ()
  | some keys =>
    if query.selector.isNone then .error .selectorRequired else selectorFits keys query.selector

def checkGroups (query : Query) : Except PurposeFault Unit :=
  match query.groupBy with
  | none => .error .groupByRequired
  | some keys => selectorFits keys query.selector

/-- Check that a query suits its purpose. -/
def check (query : Query) : Purpose → Except PurposeFault Unit
  | .sessions => query.checkList
  | .testcases => query.checkList
  | .groups => query.checkGroups

end Query
end TestQuery
