import TestQuery.Query.Clause
import TestQuery.Uuid.Reading

namespace TestQuery
namespace Query

/-!
# The grammar of queries

Which kinds of tokens spell a query, and which query they spell.  Nothing is said
here of how tokens are read.  A sentence is a row of clauses in any order; every
phrase comes with what it means, so a derivation has a query as its meaning.

The filter and the named clauses may each occur once.  A selector needs keys to
select by.
-/

/-! ## Words -/

def comparisonKind : Equality → TokenKind
  | .equal => .equal
  | .notEqual => .notEqual

def connectiveKind : Connective → TokenKind
  | .and => .keyword .and
  | .or => .keyword .or

def fieldWord : TextField → Keyword
  | .name => .name
  | .classname => .classname
  | .testsuite => .testsuite
  | .file => .file

/-! ## Phrases -/

inductive SpellsPredicate : List TokenKind → Predicate → Prop where
  | session (comparison : Equality) {text : String} {id : Uuid}
      (accepted : Uuid.ofText? text.toList = some id) :
      SpellsPredicate [.keyword .sessionId, comparisonKind comparison, .string text]
        (.session comparison id)
  | testcase (comparison : Equality) {text : String} {id : Uuid}
      (accepted : Uuid.ofText? text.toList = some id) :
      SpellsPredicate [.keyword .id, comparisonKind comparison, .string text]
        (.testcase comparison id)
  | text (field : TextField) (comparison : Equality) (value : String) :
      SpellsPredicate [.keyword (fieldWord field), comparisonKind comparison, .string value]
        (.text field comparison value)
  | status (comparison : Equality) (outcome : Status) :
      SpellsPredicate [.keyword .status, comparisonKind comparison, .string outcome.name]
        (.status comparison outcome)
  | tagged {tag : String} (named : tag ≠ "") :
      SpellsPredicate [.hash, .string tag] (.tagged .equal tag)
  | untagged {tag : String} (named : tag ≠ "") :
      SpellsPredicate [.bang, .hash, .string tag] (.tagged .notEqual tag)
  | taggedWith {tag : String} (named : tag ≠ "") (comparison : Equality) (value : String) :
      SpellsPredicate [.hash, .string tag, comparisonKind comparison, .string value]
        (.taggedWith comparison tag value)

/-- The tokens of further links, each a predicate with the connective before it. -/
inductive SpellsLinks : List TokenKind → List Link → Prop where
  | nil : SpellsLinks [] []
  | cons (connective : Connective) {front rest : List TokenKind} {next : Predicate}
      {links : List Link} (head : SpellsPredicate front next) (tail : SpellsLinks rest links) :
      SpellsLinks (connectiveKind connective :: (front ++ rest)) (⟨connective, some next⟩ :: links)

inductive SpellsText : List TokenKind → String → Prop where
  | text (value : String) : SpellsText [.string value] value

inductive SpellsKey : List TokenKind → GroupKey → Prop where
  | session : SpellsKey [.keyword .sessionId] .session
  | tag {tag : String} (named : tag ≠ "") : SpellsKey [.hash, .string tag] (.tag tag)

/-- The tokens of one or more items with commas between them. -/
inductive SpellsList {α : Type} (item : List TokenKind → α → Prop) :
    List TokenKind → List α → Prop where
  | last {front : List TokenKind} {only : α} (spelled : item front only) :
      SpellsList item front [only]
  | more {front rest : List TokenKind} {first : α} {others : List α} (spelled : item front first)
      (tail : SpellsList item rest others) :
      SpellsList item (front ++ .comma :: rest) (first :: others)

/-- The tokens of a clause.  The first link of a filter is joined to nothing. -/
inductive SpellsClause : List TokenKind → Clause → Prop where
  | filter {front rest : List TokenKind} {head : Predicate} {links : List Link}
      (first : SpellsPredicate front head) (others : SpellsLinks rest links) :
      SpellsClause (front ++ rest) (.filter (⟨.and, some head⟩ :: links))
  | groupBy {inner : List TokenKind} {keys : List GroupKey}
      (listed : SpellsList SpellsKey inner keys) :
      SpellsClause (.keyword .groupBy :: .leftParen :: (inner ++ [.rightParen])) (.groupBy keys)
  | group {inner : List TokenKind} {values : List String}
      (listed : SpellsList SpellsText inner values) :
      SpellsClause (.keyword .group :: .equal :: .leftParen :: (inner ++ [.rightParen]))
        (.group values)
  | offset (value : Int) :
      SpellsClause [.keyword .offset, .equal, .number value] (.offset value)
  | limit (value : Int) :
      SpellsClause [.keyword .limit, .equal, .number value] (.limit value)
  | startDate (moment : Timestamp) :
      SpellsClause [.keyword .startDate, .equal, .string (moment.render .query)]
        (.startDate moment)
  | endDate (moment : Timestamp) :
      SpellsClause [.keyword .endDate, .equal, .string (moment.render .query)] (.endDate moment)

inductive SpellsClauses : List TokenKind → List Clause → Prop where
  | nil : SpellsClauses [] []
  | cons {front rest : List TokenKind} {first : Clause} {others : List Clause}
      (head : SpellsClause front first) (tail : SpellsClauses rest others) :
      SpellsClauses (front ++ rest) (first :: others)

/-! ## Sentences and their meaning -/

/-- Clauses that may stand together.  The filter is the clause without a name. -/
structure Compatible (clauses : List Clause) : Prop where
  once : (clauses.map Clause.name?).Nodup
  grouped : some .group ∈ clauses.map Clause.name? → some .groupBy ∈ clauses.map Clause.name?

/-- What the clauses say in the way of `clause`, if they say anything. -/
def Says {α : Type} (clauses : List Clause) (clause : α → Clause) : Option α → Prop
  | some value => clause value ∈ clauses
  | none => ∀ value, clause value ∉ clauses

/-- The query that the clauses describe, with the defaults for what they do not say. -/
structure Describes (clauses : List Clause) (query : Query) : Prop where
  chain : ∃ chain?, Says clauses .filter chain? ∧ query.chain = chain?.getD [⟨.and, none⟩]
  groupBy : Says clauses .groupBy query.groupBy
  selector : Says clauses .group query.selector
  offset : ∃ offset?, Says clauses .offset offset? ∧ query.offset = offset?.getD 0
  limit : ∃ limit?, Says clauses .limit limit? ∧ query.limit = limit?.getD 0
  startDate : Says clauses .startDate query.startDate
  endDate : Says clauses .endDate query.endDate

/-- The kinds of tokens that spell a query. -/
def Spells (kinds : List TokenKind) (query : Query) : Prop :=
  ∃ clauses, SpellsClauses kinds clauses ∧ Compatible clauses ∧ Describes clauses query

end Query
end TestQuery
