import TestQuery.Sql.Fragment

namespace TestQuery
namespace Sql

/-!
# Statements without their parameters

The outline of a statement has a blank in place of each parameter.  It keeps the
kind and number of the tests, the connectives between them, and whether there is a
window, but none of the values.  Statements with the same outline have the same
text: what is written of a parameter is only its place.
-/

/-! ## Fragments -/

namespace Fragment

/-- The fragment with a blank for its parameter. -/
def blank : Fragment → Fragment
  | .bind _ => .bind (.count 0)
  | other => other

/-- The text of fragments does not depend on their parameters. -/
theorem renderFrom_blank (dialect : Dialect) (tables : TableNames) (number : Nat)
    (fragments : List Fragment) :
    renderFrom dialect tables number (fragments.map blank) =
      renderFrom dialect tables number fragments := by
  induction fragments generalizing number with
  | nil => rfl
  | cons fragment rest inductionHypothesis =>
      cases fragment with
      | text content => exact congrArg (content.toList ++ ·) (inductionHypothesis number)
      | name known =>
          exact congrArg (dialect.quoteName (known.resolve tables).toList ++ ·)
            (inductionHypothesis number)
      | bind parameter =>
          exact congrArg (dialect.placeholder number ++ ·) (inductionHypothesis (number + 1))

theorem separate_blank (separator : String) (groups : List (List Fragment)) :
    (separate separator groups).map blank = separate separator (groups.map (List.map blank)) := by
  induction groups with
  | nil => rfl
  | cons first others inductionHypothesis =>
      cases others with
      | nil => rfl
      | cons second others =>
          rw [separate, List.map_append, List.map_cons, inductionHypothesis]
          · rfl
          · exact List.cons_ne_nil second others

end Fragment

/-! ## Outlines -/

def Test.outline : Test → Test
  | .compare column operator _ => .compare column operator (.count 0)
  | .labelled column operator _ value => .labelled column operator "" (value.map fun _ => "")

def Condition.outline : Condition → Condition
  | .test single => .test single.outline
  | .joined left connective right => .joined left.outline connective right.outline

def Join.outline (join : Join) : Join :=
  { join with tests := join.tests.map Test.outline }

def Select.outline (select : Select) : Select :=
  { select with
    joins := select.joins.map Join.outline
    conditions := select.conditions.map Condition.outline
    limit := select.limit.map fun _ => 0
    offset := select.offset.map fun _ => 0 }

def Statement.outline : Statement → Statement
  | .plain select => .plain select.outline
  | .paged rows page => .paged rows.outline page.outline

/-! ## What is written of an outline -/

theorem Test.blank_outline (test : Test) :
    test.outline.fragments.map Fragment.blank = test.fragments.map Fragment.blank := by
  cases test with
  | compare column operator parameter => rfl
  | labelled column operator key value => cases value <;> rfl

namespace Condition

theorem outline_connective? (condition : Condition) :
    condition.outline.connective? = condition.connective? := by
  cases condition <;> rfl

theorem parenthesized_blank (fragments : List Fragment) :
    (parenthesized fragments).map Fragment.blank =
      parenthesized (fragments.map Fragment.blank) := by
  rw [parenthesized, List.map_cons, List.map_append]
  rfl

/-- Parentheses depend on the connectives only. -/
theorem blank_outline (condition : Condition) :
    condition.outline.fragments.map Fragment.blank =
      condition.fragments.map Fragment.blank := by
  induction condition with
  | test single => exact single.blank_outline
  | joined left connective right inductionHypothesis =>
      rw [outline, fragments, fragments, outline_connective?, List.map_append, List.map_append,
        List.map_cons, List.map_cons, right.blank_outline]
      split
      · rw [inductionHypothesis]
      · rw [parenthesized_blank, parenthesized_blank, inductionHypothesis]

theorem conjunct_blank_outline (condition : Condition) :
    condition.outline.conjunct.map Fragment.blank = condition.conjunct.map Fragment.blank := by
  cases condition with
  | test single => exact single.blank_outline
  | joined left connective right =>
      have inside := (Condition.joined left connective right).blank_outline
      rw [conjunct, parenthesized_blank, ← inside, ← parenthesized_blank]
      rfl

end Condition

theorem Join.blank_outline (join : Join) :
    join.outline.fragments.map Fragment.blank = join.fragments.map Fragment.blank := by
  have tests : (join.tests.map Test.outline).flatMap
        (fun test => (Fragment.text " AND " :: test.fragments).map Fragment.blank) =
      join.tests.flatMap
        (fun test => (Fragment.text " AND " :: test.fragments).map Fragment.blank) := by
    rw [List.flatMap_map]
    simp only [List.map_cons, Test.blank_outline]
  simp only [fragments, List.map_append, List.map_flatMap]
  exact congrArg (_ ++ ·) tests

namespace Select

theorem clause_blank (opening separator : String) (items : List (List Fragment)) :
    (clause opening separator items).map Fragment.blank =
      clause opening separator (items.map (List.map Fragment.blank)) := by
  cases items with
  | nil => rfl
  | cons first others =>
      exact congrArg (Fragment.text opening :: ·)
        (Fragment.separate_blank separator (first :: others))

theorem window_blank (opening : String) (count : Option Nat) :
    (window opening (count.map fun _ => 0)).map Fragment.blank =
      (window opening count).map Fragment.blank := by
  cases count <;> rfl

theorem blank_outline (select : Select) :
    select.outline.fragments.map Fragment.blank = select.fragments.map Fragment.blank := by
  have joins : (select.joins.map Join.outline).flatMap
        (fun join => join.fragments.map Fragment.blank) =
      select.joins.flatMap (fun join => join.fragments.map Fragment.blank) := by
    rw [List.flatMap_map]
    simp only [Join.blank_outline]
  have conditions : select.outline.conditionClause.map Fragment.blank =
      select.conditionClause.map Fragment.blank := by
    rw [conditionClause, conditionClause, clause_blank, clause_blank, outline, List.map_map,
      List.map_map, List.map_map]
    congr 1
    exact List.map_congr_left fun condition _ => condition.conjunct_blank_outline
  have limit := window_blank " LIMIT " select.limit
  have offset := window_blank " OFFSET " select.offset
  simp only [fragments, List.map_append, List.map_cons, List.map_flatMap, conditions]
  simp only [outline, joins, limit, offset]

end Select

theorem Statement.blank_outline (statement : Statement) :
    statement.outline.fragments.map Fragment.blank = statement.fragments.map Fragment.blank := by
  cases statement with
  | plain select => exact select.blank_outline
  | paged rows page =>
      simp only [outline, fragments, List.map_append, List.map_cons, rows.blank_outline,
        page.blank_outline]

/-- Statements with the same outline have the same text. -/
theorem Statement.render_eq_of_outline {first second : Statement}
    (same : first.outline = second.outline) (dialect : Dialect) (tables : TableNames) :
    Fragment.render dialect tables first.fragments =
      Fragment.render dialect tables second.fragments := by
  have blanks : first.fragments.map Fragment.blank = second.fragments.map Fragment.blank := by
    calc first.fragments.map Fragment.blank
        = first.outline.fragments.map Fragment.blank := first.blank_outline.symm
      _ = second.outline.fragments.map Fragment.blank := by rw [same]
      _ = second.fragments.map Fragment.blank := second.blank_outline
  rw [Fragment.render, Fragment.render, ← Fragment.renderFrom_blank, blanks,
    Fragment.renderFrom_blank]

end Sql
end TestQuery
