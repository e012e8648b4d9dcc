import TestQuery.Text

namespace TestQuery
namespace Query

open Text

/-!
# Tokens

The words and marks that a query text consists of.
-/

/-- The words of the language. -/
inductive Keyword where
  | and
  | or
  | sessionId
  | id
  | name
  | classname
  | testsuite
  | file
  | status
  | groupBy
  | group
  | offset
  | limit
  | startDate
  | endDate
deriving DecidableEq, Repr

namespace Keyword

def all : List Keyword :=
  [.and, .or, .sessionId, .id, .name, .classname, .testsuite, .file, .status, .groupBy, .group,
    .offset, .limit, .startDate, .endDate]

/-- The lower-case spelling. -/
def spelling : Keyword → String
  | .and => "and"
  | .or => "or"
  | .sessionId => "session_id"
  | .id => "id"
  | .name => "name"
  | .classname => "classname"
  | .testsuite => "testsuite"
  | .file => "file"
  | .status => "status"
  | .groupBy => "group_by"
  | .group => "group"
  | .offset => "offset"
  | .limit => "limit"
  | .startDate => "start_date"
  | .endDate => "end_date"

/-- The keyword that a word spells, in whatever case.  Only ASCII letters have
a case here: no other character has a keyword's letter as its lower case. -/
def ofWord? (word : List Char) : Option Keyword :=
  all.find? fun keyword => keyword.spelling.toList == word.map Char.toLower

end Keyword

/-- What a token is. -/
inductive TokenKind where
  | keyword (word : Keyword)
  | string (content : String)
  | number (value : Int)
  | leftParen
  | rightParen
  | comma
  | hash
  | bang
  | equal
  | notEqual
deriving DecidableEq, Repr

namespace TokenKind

/-- How a message names the token. -/
def describe : TokenKind → String
  | .keyword word => "'" ++ word.spelling ++ "'"
  | .string content => "string \"" ++ content ++ "\""
  | .number value => s!"number {value}"
  | .leftParen => "'('"
  | .rightParen => "')'"
  | .comma => "','"
  | .hash => "'#'"
  | .bang => "'!'"
  | .equal => "'='"
  | .notEqual => "'!='"

end TokenKind

/-- A token and where it stands. -/
structure Token where
  kind : TokenKind
  span : Span
deriving DecidableEq, Repr

end Query
end TestQuery
