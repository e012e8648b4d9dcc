import TestQuery.Query.Token
import TestQuery.Status

namespace TestQuery
namespace Query

open Text

/-!
# Syntax errors

Why a text is not a query.  An error about a token or a character has its place;
an error about something that never came has none.
-/

/-- What a clause needed next. -/
inductive Expected where
  | equality
  | equal
  | string
  | number
  | hash
  | leftParen
  | predicate
  | groupColumn
  | commaOrParen
deriving DecidableEq, Repr

namespace Expected

/-- The wording when something else stands there. -/
def name : Expected → String
  | .equality => "'=' or '!='"
  | .equal => "'='"
  | .string => "string"
  | .number => "number"
  | .hash => "'#'"
  | .leftParen => "'('"
  | .predicate => "predicate"
  | .groupColumn => "'session_id' or #\"tag\" in group_by"
  | .commaOrParen => "',' or ')'"

/-- The wording when the text ends. -/
def nameAtEnd : Expected → String
  | .groupColumn => "group_by column"
  | other => other.name

end Expected

/-- The fields whose value is a UUID. -/
inductive IdField where
  | sessionId
  | id
deriving DecidableEq, Repr

/-- The field as a query names it. -/
def IdField.name : IdField → String
  | .sessionId => "session_id"
  | .id => "id"

/-- The clauses that a query has at most once, the filter apart. -/
inductive ClauseName where
  | groupBy
  | group
  | offset
  | limit
  | startDate
  | endDate
deriving DecidableEq, Repr

def ClauseName.keyword : ClauseName → Keyword
  | .groupBy => .groupBy
  | .group => .group
  | .offset => .offset
  | .limit => .limit
  | .startDate => .startDate
  | .endDate => .endDate

/-- What is wrong. -/
inductive SyntaxFault where
  | numberOutOfRange (numeral : String)
  | unknownIdentifier (word : String)
  | unexpectedCharacter (found : Char)
  /-- Another token stands where `expected` was needed. -/
  | mismatch (expected : Expected) (found : TokenKind)
  /-- The text ends where `expected` was needed. -/
  | endOfInput (expected : Expected)
  /-- No clause begins with this token. -/
  | unexpectedToken (found : TokenKind)
  /-- A predicate that no connective joins to the filter before it. -/
  | secondFilter (found : TokenKind)
  | duplicateClause (clause : ClauseName)
  | invalidUuid (field : IdField) (text : String)
  | invalidStatus (text : String)
  | emptyTag
  | invalidDate (text : String)
  | selectorWithoutGroupBy
deriving DecidableEq, Repr

def SyntaxFault.message : SyntaxFault → String
  | .numberOutOfRange numeral => "number out of range: " ++ numeral
  | .unknownIdentifier word => "unknown identifier: " ++ word
  | .unexpectedCharacter found => "unexpected character: " ++ found.toString
  | .mismatch expected found => "expected " ++ expected.name ++ ", found " ++ found.describe
  | .endOfInput expected => "expected " ++ expected.nameAtEnd ++ ", but reached end of input"
  | .unexpectedToken found => "unexpected token " ++ found.describe
  | .secondFilter found =>
    "unexpected " ++ found.describe ++
      ": only one filter expression is allowed, join predicates with 'and' or 'or'"
  | .duplicateClause clause => "duplicate " ++ clause.keyword.spelling ++ " clause"
  | .invalidUuid field text => "invalid UUID format for " ++ field.name ++ ": " ++ text
  | .invalidStatus text => Status.unknownName text
  | .emptyTag => "tag must be non-empty"
  | .invalidDate text =>
    "invalid date format: \"" ++ text ++ "\", expected YYYY/MM/DD HH:MM:SS"
  | .selectorWithoutGroupBy => "group = (...) requires group_by(...)"

/-- A fault and its place, where it has one. -/
structure SyntaxError where
  fault : SyntaxFault
  span : Option Span
deriving DecidableEq, Repr

namespace SyntaxError

def located (fault : SyntaxFault) (span : Span) : SyntaxError :=
  ⟨fault, some span⟩

/-- The text ended too early. -/
def ended (expected : Expected) : SyntaxError :=
  ⟨.endOfInput expected, none⟩

end SyntaxError

end Query
end TestQuery
