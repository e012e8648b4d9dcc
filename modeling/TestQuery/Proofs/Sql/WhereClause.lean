import TestQuery.Proofs.Sql.Formula
import TestQuery.Proofs.Sql.Places

namespace TestQuery
namespace Sql

/-!
# The conditions of the inner selection

A paged statement names the rows of an inner selection before it cuts a page from
them.  `Lexeme.innerConditions` finds the conditions of that selection in the
lexemes of a statement: inside the first parentheses, after `WHERE`, up to the
grouping or the ordering.  Words inside further parentheses belong to selections
of their own and are passed over.

What is found in a written statement is what its selection has as conditions.
-/

namespace Lexeme

/-- How many parentheses are open after a lexeme; `depth` are open before it. -/
def depthAfter? (lexeme : Lexeme) (depth : Nat) : Option Nat :=
  if lexeme = .opening then some (depth + 1)
  else if lexeme = .closing then
    match depth with
    | 0 => none
    | outer + 1 => some outer
  else some depth

/-- The lexemes before and after the first one that meets the test outside
parentheses, `depth` of which have been opened before. -/
def cut (stop : Lexeme → Bool) : (depth : Nat) → List Lexeme → List Lexeme × List Lexeme
  | _, [] => ([], [])
  | depth, lexeme :: rest =>
    if depth = 0 ∧ stop lexeme = true then ([], rest)
    else
      let parts := cut stop ((lexeme.depthAfter? depth).getD 0) rest
      (lexeme :: parts.1, parts.2)

def isClosing (lexeme : Lexeme) : Bool :=
  lexeme == .closing

/-- The words that follow the conditions of a selection. -/
def endsConditions (lexeme : Lexeme) : Bool :=
  lexeme == .word "GROUP" || lexeme == .word "ORDER"

/-- The conditions of the selection in the first parentheses. -/
def innerConditions (lexemes : List Lexeme) : List Lexeme :=
  let selection := (cut isClosing 0 (cut (· == .opening) 0 lexemes).2).1
  (cut endsConditions 0 (cut (· == .word "WHERE") 0 selection).2).1

/-! ## Lexemes that a cut passes over -/

/-- How many parentheses are open after the lexemes, unless a stop stands outside
parentheses or a parenthesis closes that was not opened. -/
def nesting (stop : Lexeme → Bool) : (depth : Nat) → List Lexeme → Option Nat
  | depth, [] => some depth
  | depth, lexeme :: rest =>
    if depth = 0 ∧ stop lexeme = true then none
    else (lexeme.depthAfter? depth).bind (nesting stop · rest)

/-- Parentheses are closed in the order in which they were opened, and no stop
stands outside them. -/
def Nested (stop : Lexeme → Bool) (lexemes : List Lexeme) : Prop :=
  nesting stop 0 lexemes = some 0

theorem nesting_cons_eq_some {stop : Lexeme → Bool} {depth reached : Nat} {lexeme : Lexeme}
    {rest : List Lexeme} :
    nesting stop depth (lexeme :: rest) = some reached ↔
      ¬ (depth = 0 ∧ stop lexeme = true) ∧
        ∃ next, lexeme.depthAfter? depth = some next ∧ nesting stop next rest = some reached := by
  rw [nesting]
  split
  · rename_i stops
    constructor
    · intro impossible
      cases impossible
    · intro both
      exact absurd stops both.1
  · rename_i passes
    rw [Option.bind_eq_some_iff]
    exact ⟨fun found => ⟨passes, found⟩, fun both => both.2⟩

theorem nesting_append (stop : Lexeme → Bool) (depth : Nat) (left right : List Lexeme) :
    nesting stop depth (left ++ right) =
      (nesting stop depth left).bind (nesting stop · right) := by
  induction left generalizing depth with
  | nil => rfl
  | cons lexeme left inductionHypothesis =>
      simp only [List.cons_append, nesting, inductionHypothesis]
      split
      · rfl
      · rw [Option.bind_assoc]

theorem depthAfter?_succ {lexeme : Lexeme} {depth next : Nat}
    (shifts : lexeme.depthAfter? depth = some next) :
    lexeme.depthAfter? (depth + 1) = some (next + 1) := by
  simp only [depthAfter?] at shifts ⊢
  split
  · rename_i opens
    rw [if_pos opens] at shifts
    exact congrArg (Option.map (· + 1)) shifts
  · rename_i opensNot
    rw [if_neg opensNot] at shifts
    split
    · rename_i closes
      rw [if_pos closes] at shifts
      cases depth with
      | zero => cases shifts
      | succ outer => exact congrArg (Option.map (· + 1)) shifts
    · rename_i closesNot
      rw [if_neg closesNot] at shifts
      exact congrArg (Option.map (· + 1)) shifts

/-- Inside parentheses stops do not matter. -/
theorem nesting_deeper {stop : Lexeme → Bool} {depth reached : Nat} {lexemes : List Lexeme}
    (nested : nesting stop depth lexemes = some reached) :
    nesting stop (depth + 1) lexemes = some (reached + 1) := by
  induction lexemes generalizing depth with
  | nil => exact congrArg (Option.map (· + 1)) nested
  | cons lexeme rest inductionHypothesis =>
      obtain ⟨_, next, shifts, nestedRest⟩ := nesting_cons_eq_some.mp nested
      exact nesting_cons_eq_some.mpr ⟨fun stops => Nat.succ_ne_zero depth stops.1, next + 1,
        depthAfter?_succ shifts, inductionHypothesis nestedRest⟩

/-- What is passed over with some stops is passed over with fewer, and a parenthesis
that closes too early can be one of them. -/
theorem nesting_weaken {stop fewer : Lexeme → Bool}
    (implies : ∀ lexeme, fewer lexeme = true → stop lexeme = true ∨ lexeme = .closing)
    {depth reached : Nat} {lexemes : List Lexeme}
    (nested : nesting stop depth lexemes = some reached) :
    nesting fewer depth lexemes = some reached := by
  induction lexemes generalizing depth with
  | nil => exact nested
  | cons lexeme rest inductionHypothesis =>
      obtain ⟨passes, next, shifts, nestedRest⟩ := nesting_cons_eq_some.mp nested
      refine nesting_cons_eq_some.mpr ⟨?_, next, shifts, inductionHypothesis nestedRest⟩
      rintro ⟨outside, stops⟩
      rcases implies lexeme stops with stops | closes
      · exact passes ⟨outside, stops⟩
      · rw [closes, outside] at shifts
        cases shifts

/-- A cut takes over all that is passed over before it looks for its stop. -/
theorem cut_of_nesting {stop : Lexeme → Bool} {depth reached : Nat} {left : List Lexeme}
    (nested : nesting stop depth left = some reached) (rest : List Lexeme) :
    cut stop depth (left ++ rest) =
      (left ++ (cut stop reached rest).1, (cut stop reached rest).2) := by
  induction left generalizing depth with
  | nil => cases nested; rfl
  | cons lexeme left inductionHypothesis =>
      obtain ⟨passes, next, shifts, nestedLeft⟩ := nesting_cons_eq_some.mp nested
      rw [List.cons_append, cut, if_neg passes, shifts, Option.getD_some,
        inductionHypothesis nestedLeft]
      rfl

namespace Nested

variable {stop : Lexeme → Bool} {left right inside : List Lexeme}

theorem nil : Nested stop [] := rfl

theorem append (first : Nested stop left) (second : Nested stop right) :
    Nested stop (left ++ right) := by
  rw [Nested, nesting_append, first]
  exact second

theorem enclosed (nested : Nested stop inside) (notStop : stop .opening = false) :
    Nested stop (.opening :: (inside ++ [.closing])) := by
  have deeper := nesting_deeper nested
  refine nesting_cons_eq_some.mpr ⟨fun stops => ?_, 1, rfl, ?_⟩
  · rw [notStop] at stops
    cases stops.2
  · rw [nesting_append, deeper]
    rfl

end Nested

/-- A cut at the first stop after lexemes that are passed over. -/
theorem cut_at_stop {stop : Lexeme → Bool} {left rest : List Lexeme} {lexeme : Lexeme}
    (nested : Nested stop left) (stops : stop lexeme = true) :
    cut stop 0 (left ++ lexeme :: rest) = (left, rest) := by
  rw [cut_of_nesting nested, cut, if_pos ⟨rfl, stops⟩, List.append_nil]

/-- The words that begin the clauses of a selection from its conditions on. -/
def opensClause (lexeme : Lexeme) : Bool :=
  lexeme == .word "WHERE" || lexeme.endsConditions

end Lexeme

open Lexeme (Nested isClosing endsConditions opensClause)
open Fragment (written written_append written_cons)

/-! ## What is written without such words outside parentheses -/

section

variable (dialect : Dialect) (tables : TableNames)

theorem ColumnRef.nested (reference : ColumnRef) :
    Nested opensClause (written dialect tables reference.fragments) := by
  cases dialect <;> rfl

theorem Test.nested (test : Test) :
    Nested opensClause (written dialect tables test.fragments) := by
  cases test with
  | compare column operator parameter => cases dialect <;> cases operator <;> rfl
  | labelled column operator key value =>
      cases dialect <;> cases operator <;> cases value <;> rfl

theorem written_parenthesized (fragments : List Fragment) :
    written dialect tables (Condition.parenthesized fragments) =
      .opening :: (written dialect tables fragments ++ [.closing]) := by
  have opens : Fragment.filled dialect tables (.text "(") = [.opening] := by
    cases dialect <;> rfl
  have closes : written dialect tables [.text ")"] = [.closing] := by
    cases dialect <;> rfl
  rw [Condition.parenthesized, written_cons, written_append, opens, closes]
  rfl

theorem Condition.nested (condition : Condition) :
    Nested opensClause (written dialect tables condition.fragments) := by
  induction condition with
  | test single => exact single.nested dialect tables
  | joined left connective right inductionHypothesis =>
      have word : Nested opensClause
          (Fragment.filled dialect tables (.text (connectiveWord connective))) := by
        cases dialect <;> cases connective <;> rfl
      have joins := word.append (right.nested dialect tables)
      rw [Condition.fragments, written_append, written_cons]
      split
      · exact inductionHypothesis.append joins
      · rw [written_parenthesized]
        exact (inductionHypothesis.enclosed rfl).append joins

theorem Condition.conjunct_nested (condition : Condition) :
    Nested opensClause (written dialect tables condition.conjunct) := by
  cases condition with
  | test single => exact single.nested dialect tables
  | joined left connective right =>
      rw [Condition.conjunct, written_parenthesized]
      exact (Condition.nested dialect tables _).enclosed rfl

theorem Projection.nested (projection : Projection) :
    Nested opensClause (written dialect tables projection.fragments) := by
  cases dialect <;> cases projection <;> rfl

theorem Join.nested (join : Join) :
    Nested opensClause (written dialect tables join.fragments) := by
  have tests : Nested opensClause
      (written dialect tables
        (join.tests.flatMap fun test => .text " AND " :: test.fragments)) := by
    induction join.tests with
    | nil => exact Nested.nil
    | cons first others inductionHypothesis =>
        have word : Nested opensClause (Fragment.filled dialect tables (.text " AND ")) := by
          cases dialect <;> rfl
        rw [List.flatMap_cons, written_append, written_cons]
        exact (word.append (first.nested dialect tables)).append inductionHypothesis
  rw [Join.fragments, written_append]
  refine Nested.append ?_ tests
  cases dialect <;> cases join.outer <;> cases join.number <;> rfl

theorem separate_nested {separator : String} {items : List (List Fragment)}
    (parts : Nested opensClause (Fragment.filled dialect tables (.text separator)))
    (nested : ∀ item ∈ items, Nested opensClause (written dialect tables item)) :
    Nested opensClause (written dialect tables (Fragment.separate separator items)) := by
  induction items with
  | nil => exact Nested.nil
  | cons first others inductionHypothesis =>
      have firstNested := nested first List.mem_cons_self
      have othersNested := inductionHypothesis
        (fun item member => nested item (List.mem_cons_of_mem first member))
      cases others with
      | nil => exact firstNested
      | cons second others =>
          rw [Fragment.separate, written_append, written_cons]
          · exact firstNested.append (parts.append othersNested)
          · exact List.cons_ne_nil _ _

theorem isClosing_nested {lexemes : List Lexeme} (nested : Nested opensClause lexemes) :
    Nested isClosing lexemes :=
  Lexeme.nesting_weaken (fun _ closes => .inr (beq_iff_eq.mp closes)) nested

namespace Select

theorem clause_balanced (opening separator : String) {items : List (List Fragment)}
    (opens : Nested isClosing (Fragment.filled dialect tables (.text opening)))
    (parts : Nested opensClause (Fragment.filled dialect tables (.text separator)))
    (nested : ∀ item ∈ items, Nested opensClause (written dialect tables item)) :
    Nested isClosing (written dialect tables (clause opening separator items)) := by
  rw [clause]
  split
  · exact Nested.nil
  · rw [written_cons]
    exact opens.append (isClosing_nested (separate_nested dialect tables parts nested))

theorem window_balanced (opening : String)
    (opens : Nested isClosing (Fragment.filled dialect tables (.text opening)))
    (count : Option Nat) : Nested isClosing (written dialect tables (window opening count)) := by
  cases count with
  | none => exact Nested.nil
  | some count =>
      rw [window, written_cons]
      exact opens.append rfl

/-- What stands before the conditions. -/
def selected (select : Select) : List Fragment :=
  .text "SELECT " :: Fragment.separate ", " (select.projections.map Projection.fragments) ++
    .text " FROM " :: select.source.fragments ++ select.joins.flatMap Join.fragments

/-- What stands after the conditions. -/
def arranged (select : Select) : List Fragment :=
  clause " GROUP BY " ", " (select.grouping.map ColumnRef.fragments) ++
    clause " ORDER BY " ", " (select.ordering.map ordered) ++
    window " LIMIT " select.limit ++ window " OFFSET " select.offset

theorem fragments_eq (select : Select) :
    select.fragments = select.selected ++ select.conditionClause ++ select.arranged := by
  simp only [fragments, selected, arranged, List.append_assoc]

theorem selected_nested (select : Select) :
    Nested opensClause (written dialect tables select.selected) := by
  have comma : Nested opensClause (Fragment.filled dialect tables (.text ", ")) := by
    cases dialect <;> rfl
  have projections := separate_nested dialect tables comma
    (List.forall_mem_map.mpr fun projection (_ : projection ∈ select.projections) =>
      projection.nested dialect tables)
  have joins : Nested opensClause
      (written dialect tables (select.joins.flatMap Join.fragments)) := by
    induction select.joins with
    | nil => exact Nested.nil
    | cons first others inductionHypothesis =>
        rw [List.flatMap_cons, written_append]
        exact (first.nested dialect tables).append inductionHypothesis
  have selectWord : Nested opensClause (Fragment.filled dialect tables (.text "SELECT ")) := by
    cases dialect <;> rfl
  have source : Nested opensClause
      (written dialect tables (.text " FROM " :: select.source.fragments)) := by
    cases dialect <;> rfl
  rw [selected, written_append, written_append, written_cons]
  exact ((selectWord.append projections).append source).append joins

theorem arranged_balanced (select : Select) :
    Nested isClosing (written dialect tables select.arranged) := by
  have comma : Nested opensClause (Fragment.filled dialect tables (.text ", ")) := by
    cases dialect <;> rfl
  have grouping := clause_balanced dialect tables " GROUP BY " ", "
    (by cases dialect <;> rfl) comma
    (List.forall_mem_map.mpr fun reference (_ : reference ∈ select.grouping) =>
      reference.nested dialect tables)
  have orderedNested (item : ColumnRef × Direction) :
      Nested opensClause (written dialect tables (ordered item)) := by
    rw [ordered]
    cases dialect <;> cases item.2 <;> rfl
  have ordering := clause_balanced dialect tables " ORDER BY " ", "
    (by cases dialect <;> rfl) comma
    (List.forall_mem_map.mpr fun item (_ : item ∈ select.ordering) => orderedNested item)
  have limit := window_balanced dialect tables " LIMIT "
    (by cases dialect <;> rfl) select.limit
  have offset := window_balanced dialect tables " OFFSET "
    (by cases dialect <;> rfl) select.offset
  rw [arranged, written_append, written_append, written_append]
  exact ((grouping.append ordering).append limit).append offset

theorem clause_begins (opening separator : String) {items : List (List Fragment)}
    (nonempty : items ≠ []) :
    ∃ rest, written dialect tables (clause opening separator items) =
      Fragment.filled dialect tables (.text opening) ++ rest := by
  have notEmpty : items.isEmpty = false := List.isEmpty_eq_false_iff.mpr nonempty
  rw [clause, notEmpty]
  exact ⟨_, written_cons dialect tables _ _⟩

/-- A selection with an ordering has a word after its conditions that ends them. -/
theorem arranged_begins (select : Select) (ordered : select.ordering ≠ []) :
    ∃ next rest, written dialect tables select.arranged = next :: rest ∧
      next.endsConditions = true := by
  have group : ∃ rest, Fragment.filled dialect tables (.text " GROUP BY ") =
      .word "GROUP" :: rest := by
    cases dialect <;> exact ⟨_, rfl⟩
  have order : ∃ rest, Fragment.filled dialect tables (.text " ORDER BY ") =
      .word "ORDER" :: rest := by
    cases dialect <;> exact ⟨_, rfl⟩
  obtain ⟨groupWords, group⟩ := group
  obtain ⟨orderWords, order⟩ := order
  simp only [arranged, written_append]
  by_cases ungrouped : select.grouping = []
  · obtain ⟨rest, ordering⟩ := clause_begins dialect tables " ORDER BY " ", "
      (fun none => ordered (List.map_eq_nil_iff.mp none))
    rw [ungrouped, ordering, order]
    exact ⟨_, _, rfl, rfl⟩
  · obtain ⟨rest, grouping⟩ := clause_begins dialect tables " GROUP BY " ", "
      (fun none => ungrouped (List.map_eq_nil_iff.mp none))
    rw [grouping, group]
    exact ⟨_, _, rfl, rfl⟩

end Select

/-- The conditions of a selection, as they are written. -/
def Select.writtenConditions (select : Select) : List Lexeme :=
  written dialect tables (Fragment.separate " AND " (select.conditions.map Condition.conjunct))

theorem written_paged (rows page : Select) :
    written dialect tables (Statement.paged rows page).fragments =
      .word "WITH" :: .name "cte" :: .word "AS" :: .opening ::
        (written dialect tables rows.fragments ++
          .closing :: written dialect tables page.fragments) := by
  have head : written dialect tables (.text "WITH " :: Relation.page.fragments) =
      [.word "WITH", .name "cte"] := by
    cases dialect <;> rfl
  have opens : Fragment.filled dialect tables (.text " AS (") = [.word "AS", .opening] := by
    cases dialect <;> rfl
  have closes : Fragment.filled dialect tables (.text ") ") = [.closing] := by
    cases dialect <;> rfl
  rw [Statement.fragments, written_append, written_append, head, written_cons, written_cons, opens,
    closes]
  simp only [List.cons_append, List.nil_append]

/-- The conditions found in a paged statement are those of the rows that its page is
cut from. -/
theorem innerConditions_paged {rows page : Select} (conditioned : rows.conditions ≠ [])
    (ordered : rows.ordering ≠ []) :
    Lexeme.innerConditions (written dialect tables (Statement.paged rows page).fragments) =
      rows.writtenConditions dialect tables := by
  have whereWord : Fragment.filled dialect tables (.text " WHERE ") = [.word "WHERE"] := by
    cases dialect <;> rfl
  have andWord : Nested opensClause (Fragment.filled dialect tables (.text " AND ")) := by
    cases dialect <;> rfl
  have conditionsNested : Nested opensClause (rows.writtenConditions dialect tables) :=
    separate_nested dialect tables andWord
      (List.forall_mem_map.mpr fun condition (_ : condition ∈ rows.conditions) =>
        condition.conjunct_nested dialect tables)
  have clause : written dialect tables rows.conditionClause =
      .word "WHERE" :: rows.writtenConditions dialect tables := by
    have notEmpty : (rows.conditions.map Condition.conjunct).isEmpty = false :=
      List.isEmpty_eq_false_iff.mpr (fun none => conditioned (List.map_eq_nil_iff.mp none))
    rw [Select.conditionClause, Select.clause, notEmpty]
    exact (written_cons dialect tables _ _).trans (congrArg (· ++ _) whereWord)
  obtain ⟨next, rest, begins, ends⟩ := rows.arranged_begins dialect tables ordered
  have selection : written dialect tables rows.fragments =
      written dialect tables rows.selected ++ .word "WHERE" ::
        (rows.writtenConditions dialect tables ++ next :: rest) := by
    rw [rows.fragments_eq, written_append, written_append, clause, begins, List.append_assoc]
    rfl
  have selectionNested : Nested isClosing (written dialect tables rows.fragments) := by
    have whereNested : Nested isClosing [.word "WHERE"] := rfl
    have arranged := rows.arranged_balanced dialect tables
    rw [begins] at arranged
    rw [selection]
    exact (isClosing_nested (rows.selected_nested dialect tables)).append
      (whereNested.append ((isClosing_nested conditionsNested).append arranged))
  have inside : (Lexeme.cut (· == .opening) 0
      (written dialect tables (Statement.paged rows page).fragments)).2 =
        written dialect tables rows.fragments ++
          .closing :: written dialect tables page.fragments := by
    rw [written_paged dialect tables rows page]
    rfl
  have beforeConditions : Nested (· == .word "WHERE") (written dialect tables rows.selected) :=
    Lexeme.nesting_weaken (fun _ isWhere => .inl (by simp [opensClause, beq_iff_eq.mp isWhere]))
      (rows.selected_nested dialect tables)
  have conditions : Nested endsConditions (rows.writtenConditions dialect tables) :=
    Lexeme.nesting_weaken (fun _ ends => .inl (by simp [opensClause, ends])) conditionsNested
  simp only [Lexeme.innerConditions, inside]
  rw [Lexeme.cut_at_stop selectionNested rfl, selection,
    Lexeme.cut_at_stop beforeConditions rfl, Lexeme.cut_at_stop conditions ends]

end

end Sql
end TestQuery
