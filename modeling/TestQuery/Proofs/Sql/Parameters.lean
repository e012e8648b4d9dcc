import TestQuery.Proofs.Sql.Spacing

namespace TestQuery
namespace Sql

open Fragment (parameters parameters_append)

/-!
# The parameters of a statement

The places for parameters come in the order of the text.  Columns, projections,
groupings and orderings have none; so the parameters of a selection are those of
its joins, then those of its conditions, then those of its window.
-/

def Test.parameters : Test → List Parameter
  | .compare _ _ parameter => [parameter]
  | .labelled _ _ key value => .text key :: value.toList.map .text

def Condition.parameters : Condition → List Parameter
  | .test single => single.parameters
  | .joined left _ right => left.parameters ++ right.parameters

def Select.parameters (select : Select) : List Parameter :=
  select.joins.flatMap (fun join => join.tests.flatMap Test.parameters) ++
    select.conditions.flatMap Condition.parameters ++
    select.limit.toList.map .count ++ select.offset.toList.map .count

theorem parameters_separate (separator : String) (groups : List (List Fragment)) :
    parameters (Fragment.separate separator groups) = groups.flatMap parameters := by
  induction groups with
  | nil => rfl
  | cons first others inductionHypothesis =>
      cases others with
      | nil => exact (List.append_nil _).symm
      | cons second others =>
          rw [Fragment.separate, parameters_append, List.flatMap_cons, ← inductionHypothesis]
          · rfl
          · exact List.cons_ne_nil second others

theorem Test.parameters_fragments (test : Test) :
    Fragment.parameters test.fragments = test.parameters := by
  cases test with
  | compare column operator parameter => rfl
  | labelled column operator key value => cases value <;> rfl

namespace Condition

theorem parameters_parenthesized (fragments : List Fragment) :
    Fragment.parameters (parenthesized fragments) = Fragment.parameters fragments :=
  (parameters_append fragments [.text ")"]).trans (List.append_nil _)

theorem parameters_fragments (condition : Condition) :
    Fragment.parameters condition.fragments = condition.parameters := by
  induction condition with
  | test single => exact single.parameters_fragments
  | joined left connective right inductionHypothesis =>
      have leftPart : Fragment.parameters
          (if left.connective? = some connective ∨ left.connective? = none then left.fragments
            else parenthesized left.fragments) = left.parameters := by
        split
        · exact inductionHypothesis
        · rw [parameters_parenthesized, inductionHypothesis]
      rw [fragments, parameters_append, leftPart]
      exact congrArg (left.parameters ++ ·) right.parameters_fragments

theorem parameters_conjunct (condition : Condition) :
    Fragment.parameters condition.conjunct = condition.parameters := by
  cases condition with
  | test single => exact single.parameters_fragments
  | joined left connective right =>
      rw [conjunct, parameters_parenthesized, parameters_fragments]

end Condition

theorem Join.parameters_fragments (join : Join) :
    Fragment.parameters join.fragments = join.tests.flatMap Test.parameters := by
  have tests : Fragment.parameters
      (join.tests.flatMap fun test => .text " AND " :: test.fragments) =
        join.tests.flatMap Test.parameters := by
    induction join.tests with
    | nil => rfl
    | cons test tests inductionHypothesis =>
        rw [List.flatMap_cons, List.flatMap_cons, parameters_append, inductionHypothesis,
          ← test.parameters_fragments]
        rfl
  simp only [fragments, parameters_append, tests]
  cases join.number <;> rfl

theorem Projection.parameters_fragments (projection : Projection) :
    Fragment.parameters projection.fragments = [] := by
  cases projection <;> rfl

namespace Select

theorem parameters_clause (opening separator : String) (items : List (List Fragment)) :
    Fragment.parameters (clause opening separator items) = items.flatMap Fragment.parameters := by
  cases items with
  | nil => rfl
  | cons first others => exact parameters_separate separator (first :: others)

theorem parameters_window (opening : String) (count : Option Nat) :
    Fragment.parameters (window opening count) = count.toList.map .count := by
  cases count <;> rfl

theorem parameters_fragments (select : Select) :
    Fragment.parameters select.fragments = select.parameters := by
  have projections : Fragment.parameters
      (Fragment.separate ", " (select.projections.map Projection.fragments)) = [] := by
    rw [parameters_separate, List.flatMap_map]
    exact List.flatMap_eq_nil_iff.mpr fun projection _ => projection.parameters_fragments
  have joins : Fragment.parameters (select.joins.flatMap Join.fragments) =
      select.joins.flatMap fun join => join.tests.flatMap Test.parameters := by
    induction select.joins with
    | nil => rfl
    | cons join joins inductionHypothesis =>
        rw [List.flatMap_cons, parameters_append, inductionHypothesis, join.parameters_fragments,
          List.flatMap_cons]
  have conditions : Fragment.parameters select.conditionClause =
      select.conditions.flatMap Condition.parameters := by
    rw [conditionClause, parameters_clause, List.flatMap_map]
    simp only [Condition.parameters_conjunct]
  have grouping : Fragment.parameters
      (clause " GROUP BY " ", " (select.grouping.map ColumnRef.fragments)) = [] := by
    rw [parameters_clause, List.flatMap_map]
    exact List.flatMap_eq_nil_iff.mpr fun _ _ => rfl
  have ordering : Fragment.parameters
      (clause " ORDER BY " ", " (select.ordering.map ordered)) = [] := by
    rw [parameters_clause, List.flatMap_map]
    exact List.flatMap_eq_nil_iff.mpr fun _ _ => rfl
  have opening : Fragment.parameters (.text "SELECT " ::
      Fragment.separate ", " (select.projections.map Projection.fragments)) = [] := projections
  have source : Fragment.parameters (.text " FROM " :: select.source.fragments) = [] := rfl
  simp only [fragments, parameters_append, opening, source, joins, conditions, grouping, ordering,
    parameters_window, List.append_nil, List.nil_append, parameters]

end Select

/-- The rows of a paged statement come before its page. -/
theorem Statement.parameters_paged (rows page : Select) :
    Fragment.parameters (Statement.paged rows page).fragments =
      rows.parameters ++ page.parameters := by
  rw [← rows.parameters_fragments, ← page.parameters_fragments, fragments, parameters_append,
    parameters_append]
  rfl

end Sql
end TestQuery
