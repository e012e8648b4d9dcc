import TestQuery.Proofs.Plan.Planned
import TestQuery.Proofs.Sql.WhereClause

namespace TestQuery

/-!
# The text of a plan with its values in place

What a database runs is the text of a plan, with a value in each of its places.  Here the
lexemes of that text are told clause by clause, so that a statement about a clause can be
one about the text.
-/

namespace Sql

open Fragment (written written_append written_cons)

/-- Items with commas between them. -/
def Lexeme.listed (items : List (List Lexeme)) : List Lexeme :=
  List.intercalate [.sign ","] items

def Lexeme.groupedBy (items : List (List Lexeme)) : List Lexeme :=
  [.word "GROUP", .word "BY"] ++ Lexeme.listed items

def Lexeme.orderedBy (items : List (List Lexeme)) : List Lexeme :=
  [.word "ORDER", .word "BY"] ++ Lexeme.listed items

def Lexeme.column (relation column : String) : List Lexeme :=
  [.name relation, .sign ".", .name column]

variable (dialect : Dialect) (tables : TableNames)

theorem written_column (relation : Relation) (column : Column) :
    written dialect tables (ColumnRef.fragments ⟨relation, column⟩) =
      Lexeme.column (Name.resolve tables (.relation relation)) column.spelling := by
  cases dialect <;> rfl

theorem written_separate (separator : String) (items : List (List Fragment)) :
    written dialect tables (Fragment.separate separator items) =
      List.intercalate (Fragment.filled dialect tables (.text separator))
        (items.map (written dialect tables)) := by
  induction items with
  | nil => rfl
  | cons first others inductionHypothesis =>
      cases others with
      | nil => exact List.intercalate_singleton.symm
      | cons second others =>
          rw [Fragment.separate, written_append, written_cons, inductionHypothesis,
            ← List.append_assoc]
          · exact List.intercalate_cons_cons.symm
          · exact List.cons_ne_nil _ _

/-- Fragments that are parted by commas. -/
theorem written_listed (items : List (List Fragment)) :
    written dialect tables (Fragment.separate ", " items) =
      Lexeme.listed (items.map (written dialect tables)) := by
  have comma : Fragment.filled dialect tables (.text ", ") = [.sign ","] := by
    cases dialect <;> rfl
  rw [written_separate, comma]
  rfl

namespace Select

theorem written_clause (opening separator : String) {items : List (List Fragment)}
    (nonempty : items ≠ []) :
    written dialect tables (clause opening separator items) =
      Fragment.filled dialect tables (.text opening) ++
        written dialect tables (Fragment.separate separator items) := by
  have notEmpty : items.isEmpty = false := List.isEmpty_eq_false_iff.mpr nonempty
  rw [clause, notEmpty]
  exact written_cons dialect tables _ _

theorem written_grouping {select : Select} (nonempty : select.grouping ≠ []) :
    written dialect tables (clause " GROUP BY " ", " (select.grouping.map ColumnRef.fragments)) =
      Lexeme.groupedBy
        (select.grouping.map fun column => written dialect tables column.fragments) := by
  have words : Fragment.filled dialect tables (.text " GROUP BY ") =
      [.word "GROUP", .word "BY"] := by
    cases dialect <;> rfl
  rw [written_clause dialect tables _ _ (fun none => nonempty (List.map_eq_nil_iff.mp none)),
    written_listed, words, List.map_map]
  rfl

theorem written_ordering {select : Select} (nonempty : select.ordering ≠ []) :
    written dialect tables (clause " ORDER BY " ", " (select.ordering.map ordered)) =
      Lexeme.orderedBy
        (select.ordering.map fun item => written dialect tables (ordered item)) := by
  have words : Fragment.filled dialect tables (.text " ORDER BY ") =
      [.word "ORDER", .word "BY"] := by
    cases dialect <;> rfl
  rw [written_clause dialect tables _ _ (fun none => nonempty (List.map_eq_nil_iff.mp none)),
    written_listed, words, List.map_map]
  rfl

theorem written_ascending (column : ColumnRef) :
    written dialect tables (ordered (column, .ascending)) =
      written dialect tables column.fragments ++ [.word "ASC"] := by
  have word : written dialect tables [.text Direction.ascending.word] = [.word "ASC"] := by
    cases dialect <;> rfl
  rw [ordered, written_append, word]

theorem written_conditions {select : Select} (nonempty : select.conditions ≠ []) :
    written dialect tables select.conditionClause =
      .word "WHERE" :: List.intercalate [.word "AND"]
        (select.conditions.map fun condition => written dialect tables condition.conjunct) := by
  have whereWord : Fragment.filled dialect tables (.text " WHERE ") = [.word "WHERE"] := by
    cases dialect <;> rfl
  have andWord : Fragment.filled dialect tables (.text " AND ") = [.word "AND"] := by
    cases dialect <;> rfl
  rw [conditionClause,
    written_clause dialect tables _ _ (fun none => nonempty (List.map_eq_nil_iff.mp none)),
    written_separate, whereWord, andWord, List.map_map]
  rfl

theorem written_selected (select : Select) :
    written dialect tables select.selected =
      .word "SELECT" :: Lexeme.listed
          (select.projections.map fun projection => written dialect tables projection.fragments) ++
        [.word "FROM", .name (Name.resolve tables (.relation select.source))] ++
        select.joins.flatMap fun join => written dialect tables join.fragments := by
  have selectWord : Fragment.filled dialect tables (.text "SELECT ") = [.word "SELECT"] := by
    cases dialect <;> rfl
  have source : written dialect tables (.text " FROM " :: select.source.fragments) =
      [.word "FROM", .name (Name.resolve tables (.relation select.source))] := by
    cases dialect <;> rfl
  have joins : written dialect tables (select.joins.flatMap Join.fragments) =
      select.joins.flatMap fun join => written dialect tables join.fragments :=
    List.flatMap_assoc
  rw [selected, written_append, written_append, written_cons, written_listed, source, selectWord,
    joins, List.map_map]
  rfl

/-- The window of a page. -/
def windowLexemes (limit offset : Option Nat) : List Lexeme :=
  limit.toList.flatMap (fun count => [.word "LIMIT", .value (.bigUnsigned (some count))]) ++
    offset.toList.flatMap (fun count => [.word "OFFSET", .value (.bigUnsigned (some count))])

/-- After the conditions come the grouping, the ordering and the window. -/
theorem written_arranged (select : Select) :
    written dialect tables select.arranged =
      written dialect tables (clause " GROUP BY " ", " (select.grouping.map ColumnRef.fragments)) ++
        written dialect tables (clause " ORDER BY " ", " (select.ordering.map ordered)) ++
        windowLexemes select.limit select.offset := by
  have windows :
      written dialect tables (window " LIMIT " select.limit ++ window " OFFSET " select.offset) =
        windowLexemes select.limit select.offset := by
    rw [written_append, windowLexemes]
    cases dialect <;> cases select.limit <;> cases select.offset <;> rfl
  rw [arranged, List.append_assoc, written_append, written_append, windows]

/-- A selection without its window. -/
def body (select : Select) : List Fragment :=
  select.selected ++ select.conditionClause ++
    clause " GROUP BY " ", " (select.grouping.map ColumnRef.fragments) ++
    clause " ORDER BY " ", " (select.ordering.map ordered)

theorem written_body (select : Select) :
    written dialect tables select.fragments =
      written dialect tables select.body ++ windowLexemes select.limit select.offset := by
  rw [fragments_eq, written_append, written_arranged, body]
  simp only [written_append, List.append_assoc]

end Select

/-! ## Where a window stands -/

/-- The lexeme begins a window. -/
def Lexeme.opensWindow (lexeme : Lexeme) : Bool :=
  lexeme == .word "LIMIT" || lexeme == .word "OFFSET"

/-- The fragment begins no window, whatever the dialect.  Names and values never do. -/
def Fragment.isQuiet : Fragment → Bool
  | .text content => [Dialect.postgres, .mysql, .sqlite].all fun dialect =>
    (Lexeme.scan dialect content.toList).all fun lexeme => !lexeme.opensWindow
  | .name _ | .bind _ => true

/-- None of the fragments begins a window. -/
def Quiet (fragments : List Fragment) : Prop :=
  fragments.all Fragment.isQuiet = true

namespace Quiet

variable {left right : List Fragment}

theorem append (first : Quiet left) (second : Quiet right) : Quiet (left ++ right) := by
  rw [Quiet, List.all_append, first, second]
  rfl

theorem flatMap {α : Type} {items : List α} {write : α → List Fragment}
    (quiet : ∀ item ∈ items, Quiet (write item)) : Quiet (items.flatMap write) := by
  rw [Quiet, List.all_flatMap]
  exact List.all_eq_true.mpr quiet

theorem separate {separator : String} (parts : Quiet [.text separator])
    {items : List (List Fragment)} (quiet : ∀ item ∈ items, Quiet item) :
    Quiet (Fragment.separate separator items) := by
  induction items with
  | nil => rfl
  | cons first others inductionHypothesis =>
      rcases List.forall_mem_cons.mp quiet with ⟨firstQuiet, othersQuiet⟩
      cases others with
      | nil => exact firstQuiet
      | cons second others =>
          exact firstQuiet.append (parts.append (inductionHypothesis othersQuiet))

theorem clause {opening separator : String} (opens : Quiet [.text opening])
    (parts : Quiet [.text separator]) {items : List (List Fragment)}
    (quiet : ∀ item ∈ items, Quiet item) : Quiet (Select.clause opening separator items) := by
  rw [Select.clause]
  split
  · rfl
  · exact opens.append (separate parts quiet)

theorem written {fragments : List Fragment} (quiet : Quiet fragments) (dialect : Dialect)
    (tables : TableNames) :
    ∀ lexeme ∈ Fragment.written dialect tables fragments, lexeme.opensWindow = false := by
  intro lexeme member
  rcases List.mem_flatMap.mp member with ⟨fragment, isFragment, isLexeme⟩
  have silent := List.all_eq_true.mp quiet fragment isFragment
  cases fragment with
  | text content =>
      have each := List.all_eq_true.mp silent dialect (by cases dialect <;> simp)
      simpa using List.all_eq_true.mp each lexeme isLexeme
  | name known =>
      cases List.mem_singleton.mp isLexeme
      rfl
  | bind parameter =>
      cases List.mem_singleton.mp isLexeme
      rfl

end Quiet

theorem Test.quiet (test : Test) : Quiet test.fragments := by
  cases test with
  | compare column operator parameter => cases operator <;> rfl
  | labelled column operator key value => cases operator <;> cases value <;> rfl

theorem Condition.quiet (condition : Condition) : Quiet condition.fragments := by
  induction condition with
  | test single => exact single.quiet
  | joined left connective right inductionHypothesis =>
      have word : Quiet [.text (connectiveWord connective)] := by
        cases connective <;> rfl
      have opens : Quiet [.text "("] := rfl
      have closes : Quiet [.text ")"] := rfl
      have joins := word.append right.quiet
      rw [Condition.fragments]
      split
      · exact inductionHypothesis.append joins
      · exact (opens.append (inductionHypothesis.append closes)).append joins

theorem Condition.conjunct_quiet (condition : Condition) : Quiet condition.conjunct := by
  have opens : Quiet [.text "("] := rfl
  have closes : Quiet [.text ")"] := rfl
  cases condition with
  | test single => exact single.quiet
  | joined left connective right =>
      exact opens.append ((Condition.quiet _).append closes)

theorem Join.quiet (join : Join) : Quiet join.fragments := by
  have word : Quiet [.text " AND "] := rfl
  have tests : Quiet (join.tests.flatMap fun test => .text " AND " :: test.fragments) :=
    .flatMap fun test _ => word.append test.quiet
  rw [Join.fragments]
  refine Quiet.append ?_ tests
  cases join.outer <;> cases join.number <;> rfl

theorem Select.body_quiet (select : Select) : Quiet select.body := by
  have comma : Quiet [.text ", "] := rfl
  have projections : Quiet (Fragment.separate ", " (select.projections.map Projection.fragments)) :=
    comma.separate (List.forall_mem_map.mpr fun projection _ => by cases projection <;> rfl)
  have selectWord : Quiet [.text "SELECT "] := rfl
  have source : Quiet (.text " FROM " :: select.source.fragments) := rfl
  have joins : Quiet (select.joins.flatMap Join.fragments) := .flatMap fun join _ => join.quiet
  have whereWord : Quiet [.text " WHERE "] := rfl
  have andWord : Quiet [.text " AND "] := rfl
  have conditions : Quiet select.conditionClause :=
    whereWord.clause andWord
      (List.forall_mem_map.mpr fun condition _ => condition.conjunct_quiet)
  have groupWords : Quiet [.text " GROUP BY "] := rfl
  have grouping : Quiet (clause " GROUP BY " ", " (select.grouping.map ColumnRef.fragments)) :=
    groupWords.clause comma (List.forall_mem_map.mpr fun _ _ => rfl)
  have orderWords : Quiet [.text " ORDER BY "] := rfl
  have direction (item : ColumnRef × Direction) : Quiet [.text item.2.word] := by
    cases item.2 <;> rfl
  have ordering : Quiet (clause " ORDER BY " ", " (select.ordering.map ordered)) :=
    orderWords.clause comma (List.forall_mem_map.mpr fun item _ =>
      Quiet.append rfl (direction item))
  have selected : Quiet select.selected :=
    ((selectWord.append projections).append source).append joins
  exact ((selected.append conditions).append grouping).append ordering

/-- The window of a page stands at the end of its statement, and the rest has none if the
rows have none. -/
theorem window_of_paged {rows : Select} (noLimit : rows.limit = none)
    (noOffset : rows.offset = none) (page : Select) :
    ∃ front, written dialect tables (Statement.paged rows page).fragments =
        front ++ Select.windowLexemes page.limit page.offset ∧
      ∀ lexeme ∈ front, lexeme.opensWindow = false := by
  have rowsWritten := rows.written_body dialect tables
  rw [noLimit, noOffset] at rowsWritten
  have whole : written dialect tables rows.fragments = written dialect tables rows.body :=
    rowsWritten.trans (List.append_nil _)
  refine ⟨.word "WITH" :: .name "cte" :: .word "AS" :: .opening ::
    (written dialect tables rows.body ++ .closing :: written dialect tables page.body), ?_, ?_⟩
  · rw [written_paged, whole, page.written_body]
    simp only [List.cons_append, List.append_assoc]
  · have inRows := rows.body_quiet.written dialect tables
    have inPage := page.body_quiet.written dialect tables
    simp only [List.forall_mem_cons, List.forall_mem_append]
    exact ⟨rfl, rfl, rfl, rfl, inRows, rfl, inPage⟩

end Sql

namespace Plan

open Sql

/-- The text of the plan, with its values in their places. -/
def filled? (plan : Plan) : Option (List Lexeme) :=
  Lexeme.fill plan.settings.dialect plan.values 0
    (Lexeme.scan plan.settings.dialect plan.sql.toList)

/-- There is a value for each place, and the text is that of the statement. -/
theorem filled?_eq (plan : Plan) :
    plan.filled? = some (Fragment.written plan.settings.dialect plan.settings.tables
      plan.statement.fragments) := by
  rw [filled?, scan_sql]
  exact Fragment.fill_lexemesFrom plan.statement.spaced.plain plan.settings.dialect
    plan.settings.tables []

/-- The conditions as they are written, each by itself. -/
def conditionTexts (settings : Settings) (conditions : List Condition) : List (List Lexeme) :=
  conditions.map fun condition =>
    Fragment.written settings.dialect settings.tables condition.conjunct

end Plan

end TestQuery
