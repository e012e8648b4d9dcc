import TestQuery.Query.Clause
import TestQuery.Query.Token.Scan
import TestQuery.Reader
import TestQuery.Uuid.Reading

namespace TestQuery
namespace Query

open Text

/-!
# Reading queries

```text
query      := clause*
clause     := predicate (("and" | "or") predicate)*
            | "group_by" "(" key ("," key)* ")"
            | "group" "=" "(" STRING ("," STRING)* ")"
            | ("offset" | "limit") "=" NUMBER
            | ("start_date" | "end_date") "=" STRING
predicate  := field ("=" | "!=") STRING
            | "#" STRING [("=" | "!=") STRING]
            | "!" "#" STRING
key        := "session_id" | "#" STRING
```

Every clause but the filter is introduced by its name.  Tokens are taken from
the front one at a time, and an error is about the first token that fits no
clause; a clause that came before is found out once it has been read.
-/

abbrev TokenReader (α : Type) := Reader Token SyntaxError α

abbrev TokenConsumer (α : Type) := Consumer Token SyntaxError α

/-! ## Single tokens -/

/-- Take the next token if `accept` can use it. -/
def expect {α : Type} (expected : Expected) (accept : Token → Option α) : TokenConsumer α :=
  Consumer.symbol (.ended expected) fun token =>
    match accept token with
    | some result => .ok result
    | none => .error (.located (.mismatch expected token.kind) token.span)

/-- Take a token of exactly this kind. -/
def expectKind (expected : Expected) (kind : TokenKind) : TokenConsumer Unit :=
  expect expected fun token => if token.kind = kind then some () else none

/-- Take a string, with its place. -/
def stringToken : TokenConsumer (String × Span) :=
  expect .string fun token =>
    match token.kind with
    | .string content => some (content, token.span)
    | _ => none

/-- The comparison that a token makes. -/
def TokenKind.equality? : TokenKind → Option Equality
  | .equal => some .equal
  | .notEqual => some .notEqual
  | _ => none

def equality : TokenConsumer Equality :=
  expect .equality fun token => token.kind.equality?

def numberToken : TokenConsumer Int :=
  expect .number fun token =>
    match token.kind with
    | .number value => some value
    | _ => none

/-- Take the end of a list or the comma before another item. -/
def anotherItem : TokenConsumer Bool :=
  expect .commaOrParen fun token =>
    match token.kind with
    | .comma => some true
    | .rightParen => some false
    | _ => none

/-! ## Values -/

/-- Take a string and make something of it, or report the fault at its place. -/
def valueOf {α : Type} (convert : String → Except SyntaxFault α) : TokenConsumer α :=
  stringToken.andThen fun (content, span) =>
    Reader.lift <|
      match convert content with
      | .ok result => .ok result
      | .error fault => .error (.located fault span)

def textValue : TokenConsumer String :=
  valueOf .ok

/-- The UUID of a field. -/
def uuidValue (field : IdField) : TokenConsumer Uuid :=
  valueOf fun content =>
    match Uuid.ofText? content.toList with
    | some id => .ok id
    | none => .error (.invalidUuid field content)

def statusValue : TokenConsumer Status :=
  valueOf fun content =>
    match Status.ofName? content with
    | some status => .ok status
    | none => .error (.invalidStatus content)

/-- The name of a tag, after its `#`. -/
def tagValue : TokenConsumer String :=
  valueOf fun content => if content = "" then .error .emptyTag else .ok content

def dateValue : TokenConsumer Timestamp :=
  valueOf fun content =>
    match Timestamp.read? .query content with
    | some moment => .ok moment
    | none => .error (.invalidDate content)

/-! ## Predicates -/

/-- The textual field that a keyword names. -/
def Keyword.textField? : Keyword → Option TextField
  | .name => some .name
  | .classname => some .classname
  | .testsuite => some .testsuite
  | .file => some .file
  | _ => none

/-- Can a predicate begin with this token? -/
def TokenKind.beginsPredicate : TokenKind → Bool
  | .keyword .sessionId | .keyword .id | .keyword .name | .keyword .classname
  | .keyword .testsuite | .keyword .file | .keyword .status | .hash | .bang => true
  | _ => false

/-- After `#` and a tag: a comparison with a value may follow. -/
def tagComparison (tag : String) : TokenReader Predicate := do
  let next ← Reader.peek
  match next.bind (·.kind.equality?) with
  | none => return .tagged .equal tag
  | some _ =>
    let comparison ← equality
    let value ← textValue
    return .taggedWith comparison tag value

/-- The predicate that begins with the token `first`. -/
def predicateAfter (first : Token) : TokenReader Predicate :=
  match first.kind with
  | .keyword .sessionId => do
    let comparison ← equality
    let id ← uuidValue .sessionId
    return .session comparison id
  | .keyword .id => do
    let comparison ← equality
    let id ← uuidValue .id
    return .testcase comparison id
  | .keyword .status => do
    let comparison ← equality
    let status ← statusValue
    return .status comparison status
  | .keyword word =>
    match word.textField? with
    | some field => do
      let comparison ← equality
      let value ← textValue
      return .text field comparison value
    | none => .refuse (.located (.mismatch .predicate first.kind) first.span)
  | .hash => do
    let tag ← tagValue
    tagComparison tag
  | .bang => do
    expectKind .hash .hash
    let tag ← tagValue
    return .tagged .notEqual tag
  | _ => .refuse (.located (.mismatch .predicate first.kind) first.span)

def predicate : TokenConsumer Predicate :=
  (expect .predicate some).andThen predicateAfter

/-- The connective that a token is. -/
def TokenKind.connective? : TokenKind → Option Connective
  | .keyword .and => some .and
  | .keyword .or => some .or
  | _ => none

/-- A further link of the chain, if the token joins one. -/
def linkAfter (token : Token) : Option (TokenReader Link) :=
  token.kind.connective?.map fun connective => do
    let next ← predicate
    return ⟨connective, some next⟩

/-- The chain that begins with the token `first`. -/
def chainAfter (first : Token) : TokenReader (List Link) := do
  let head ← predicateAfter first
  let others ← Reader.many linkAfter
  return ⟨.and, some head⟩ :: others

/-! ## Clauses -/

def groupKey : TokenConsumer GroupKey :=
  (expect .groupColumn fun token =>
    match token.kind with
    | .keyword .sessionId => some true
    | .hash => some false
    | _ => none).andThen fun isSession =>
      if isSession then return .session
      else do
        let tag ← tagValue
        return .tag tag

/-- What follows the name of a clause. -/
def clauseBody : ClauseName → TokenReader Clause
  | .groupBy => do
    expectKind .leftParen .leftParen
    let keys ← Reader.separated groupKey anotherItem
    return .groupBy keys
  | .group => do
    expectKind .equal .equal
    expectKind .leftParen .leftParen
    let values ← Reader.separated textValue anotherItem
    return .group values
  | .offset => do
    expectKind .equal .equal
    let value ← numberToken
    return .offset value
  | .limit => do
    expectKind .equal .equal
    let value ← numberToken
    return .limit value
  | .startDate => do
    expectKind .equal .equal
    let moment ← dateValue
    return .startDate moment
  | .endDate => do
    expectKind .equal .equal
    let moment ← dateValue
    return .endDate moment

/-- The clause that a token names. -/
def TokenKind.clause? : TokenKind → Option ClauseName
  | .keyword .groupBy => some .groupBy
  | .keyword .group => some .group
  | .keyword .offset => some .offset
  | .keyword .limit => some .limit
  | .keyword .startDate => some .startDate
  | .keyword .endDate => some .endDate
  | _ => none

/-- Read the clause that begins with the token `first` and add it to those
before it. -/
def addClause (before : List Clause) (first : Token) : TokenReader (List Clause) :=
  match first.kind.clause? with
  | some name => do
    let clause ← clauseBody name
    if before.any (·.name? = some name) then
      Reader.refuse (.located (.duplicateClause name) first.span)
    else return before ++ [clause]
  | none =>
    if first.kind.beginsPredicate then
      if before.any (·.chain?.isSome) then
        Reader.refuse (.located (.secondFilter first.kind) first.span)
      else do
        let chain ← chainAfter first
        return before ++ [.filter chain]
    else Reader.refuse (.located (.unexpectedToken first.kind) first.span)

/-- All clauses, from the first token to the last. -/
def readClauses (tokens : List Token) : Except SyntaxError (List Clause) :=
  Reader.untilEnd addClause [] tokens

/-- A group can be pinned only where there is a grouping. -/
def finish (clauses : List Clause) : Except SyntaxError Query :=
  let query := ofClauses clauses
  if query.selector.isSome ∧ query.groupBy.isNone then .error ⟨.selectorWithoutGroupBy, none⟩
  else .ok query

def ofTokens (tokens : List Token) : Except SyntaxError Query :=
  match readClauses tokens with
  | .error error => .error error
  | .ok clauses => finish clauses

def read (text : String) : Except SyntaxError Query :=
  match tokenize text with
  | .error error => .error error
  | .ok tokens => ofTokens tokens

end Query
end TestQuery
