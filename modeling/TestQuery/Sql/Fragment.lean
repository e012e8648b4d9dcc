import TestQuery.Sql.Statement

namespace TestQuery
namespace Sql

/-!
# Fragments

A statement is written as a row of fragments: fixed text, names, and places for
parameters.  Only names are quoted and only parameters are numbered, so the fixed
text holds neither quotes nor marks of parameters.  The same fragments serve every
dialect and every choice of table names.
-/

/-- A name in a statement. -/
inductive Name where
  /-- A relation. -/
  | relation (relation : Relation)
  /-- A column. -/
  | column (column : Column)
deriving DecidableEq, Repr

/-- The name as it is known to the database. -/
def Name.resolve (tables : TableNames) : Name → String
  | .relation (.table table) => tables.get table
  | .relation (.label number) => s!"l{number}"
  | .relation .page => "cte"
  | .column found => found.spelling

/-- A piece of a statement. -/
inductive Fragment where
  | text (content : String)
  | name (name : Name)
  | bind (parameter : Parameter)
deriving DecidableEq

namespace Fragment

/-- The characters of the fragments, the next parameter having the given number. -/
def renderFrom (dialect : Dialect) (tables : TableNames) : Nat → List Fragment → List Char
  | _, [] => []
  | number, .text content :: rest => content.toList ++ renderFrom dialect tables number rest
  | number, .name known :: rest =>
    dialect.quoteName (known.resolve tables).toList ++ renderFrom dialect tables number rest
  | number, .bind _ :: rest =>
    dialect.placeholder number ++ renderFrom dialect tables (number + 1) rest

def render (dialect : Dialect) (tables : TableNames) (fragments : List Fragment) : String :=
  String.ofList (renderFrom dialect tables 1 fragments)

/-- The parameters, in the order of their places. -/
def parameters (fragments : List Fragment) : List Parameter :=
  fragments.filterMap fun
    | .bind parameter => some parameter
    | _ => none

/-- Put a text between groups of fragments. -/
def separate (separator : String) : List (List Fragment) → List Fragment
  | [] => []
  | [last] => last
  | first :: others => first ++ .text separator :: separate separator others

end Fragment

/-! ## The fragments of a statement -/

def Relation.fragments (relation : Relation) : List Fragment :=
  [.name (.relation relation)]

def ColumnRef.fragments (reference : ColumnRef) : List Fragment :=
  [.name (.relation reference.relation), .text ".", .name (.column reference.column)]

def Comparison.sign : Comparison → String
  | .equal => " = "
  | .notEqual => " <> "
  | .atLeast => " >= "
  | .atMost => " <= "

def connectiveWord : Connective → String
  | .and => " AND "
  | .or => " OR "

/-- Comparison of a column with a parameter. -/
def comparison (column : ColumnRef) (sign : String) (parameter : Parameter) : List Fragment :=
  column.fragments ++ [.text sign, .bind parameter]

namespace Test

/-- Is the value of a column among those that follow? -/
def membership : Equality → String
  | .equal => " IN (SELECT "
  | .notEqual => " NOT IN (SELECT "

/-- A test.  A column is compared with a parameter, or looked for among the sessions
that have a label. -/
def fragments : Test → List Fragment
  | .compare column operator parameter => comparison column operator.sign parameter
  | .labelled column operator key value =>
    column.fragments ++ [.text (membership operator)] ++
      (Table.labels.col .sessionId).fragments ++ [.text " FROM "] ++
      (Relation.table .labels).fragments ++ [.text " WHERE "] ++
      comparison (Table.labels.col .key) " = " (.text key) ++
      (match value with
        | none => []
        | some content =>
          .text " AND " :: comparison (Table.labels.col .value) " = " (.text content)) ++
      [.text ")"]

end Test

namespace Condition

/-- The connective that a condition was last joined with. -/
def connective? : Condition → Option Connective
  | .test _ => none
  | .joined _ connective _ => some connective

def parenthesized (fragments : List Fragment) : List Fragment :=
  .text "(" :: (fragments ++ [.text ")"])

/-- A condition without parentheses around it.  The left part of a join has
parentheses when it was joined with the other connective. -/
def fragments : Condition → List Fragment
  | .test single => single.fragments
  | .joined left connective right =>
    (if left.connective? = some connective ∨ left.connective? = none then left.fragments
      else parenthesized left.fragments) ++
    .text (connectiveWord connective) :: right.fragments

/-- A condition that has to hold besides others: parentheses keep it together. -/
def conjunct (condition : Condition) : List Fragment :=
  match condition with
  | .test single => single.fragments
  | .joined _ _ _ => parenthesized condition.fragments

end Condition

namespace Join

/-- A join, with the tests that its rows have to pass. -/
def fragments (join : Join) : List Fragment :=
  [.text (if join.outer then " LEFT JOIN " else " INNER JOIN ")] ++
    (Relation.table join.table).fragments ++
    (match join.number with
      | none => []
      | some number => .text " AS " :: (Relation.label number).fragments) ++
    [.text " ON "] ++ join.left.fragments ++ [.text " = "] ++ join.right.fragments ++
    join.tests.flatMap fun test => .text " AND " :: test.fragments

end Join

namespace Projection

/-- The name given to a result. -/
def named (as : Column) : List Fragment :=
  [.text " AS ", .name (.column as)]

/-- Over all rows, before the page is cut. -/
def overAll : String := " OVER (  )"

/-- A projection and the name of its result. -/
def fragments : Projection → List Fragment
  | .all relation => relation.fragments ++ [.text ".*"]
  | .column reference => reference.fragments
  | .renamed reference as => reference.fragments ++ named as
  | .least reference as =>
    .text "MIN(" :: (reference.fragments ++ .text ")" :: named as)
  | .countDistinct reference as =>
    .text "COUNT(DISTINCT " :: (reference.fragments ++ .text ")" :: named as)
  | .countRows as => .text ("COUNT(*)" ++ overAll) :: named as
  | .leastOfRows reference as =>
    .text "MIN(" :: (reference.fragments ++ .text (")" ++ overAll) :: named as)

end Projection

def Direction.word : Direction → String
  | .ascending => " ASC"
  | .descending => " DESC"

namespace Select

/-- A clause that is left out when it lists nothing. -/
def clause (opening separator : String) (items : List (List Fragment)) : List Fragment :=
  if items.isEmpty then [] else .text opening :: Fragment.separate separator items

/-- The window of a page. -/
def window (opening : String) : Option Nat → List Fragment
  | none => []
  | some count => [.text opening, .bind (.count count)]

/-- The clause of the conditions, which all have to hold. -/
def conditionClause (select : Select) : List Fragment :=
  clause " WHERE " " AND " (select.conditions.map Condition.conjunct)

/-- A column to order by and its direction. -/
def ordered (item : ColumnRef × Direction) : List Fragment :=
  item.1.fragments ++ [.text item.2.word]

/-- The clauses of a selection, in their fixed order. -/
def fragments (select : Select) : List Fragment :=
  .text "SELECT " :: Fragment.separate ", " (select.projections.map Projection.fragments) ++
    .text " FROM " :: select.source.fragments ++
    select.joins.flatMap Join.fragments ++
    select.conditionClause ++
    clause " GROUP BY " ", " (select.grouping.map ColumnRef.fragments) ++
    clause " ORDER BY " ", " (select.ordering.map ordered) ++
    window " LIMIT " select.limit ++ window " OFFSET " select.offset

end Select

namespace Statement

/-- A statement.  The rows of a paged one are named before its page is cut from them. -/
def fragments : Statement → List Fragment
  | .plain select => select.fragments
  | .paged rows page =>
    .text "WITH " :: Relation.page.fragments ++ .text " AS (" :: rows.fragments ++
      .text ") " :: page.fragments

end Statement

end Sql
end TestQuery
