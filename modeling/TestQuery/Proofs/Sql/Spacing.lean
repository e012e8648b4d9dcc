import TestQuery.Proofs.Sql.Lexeme

namespace TestQuery
namespace Sql

open Lexeme (Pending advance scan isPlain isBreak)

/-!
# The lexemes of a written statement

Fragments that stand next to each other could grow together: a word with the word
after it, a mark with a digit, a name with a second name whose quote would be
taken for the second half of a doubled one.  `Spaced` says that this does not
happen, in the manner of a precondition and a postcondition: `before` is what is
known of the text that precedes the fragments, `after` what is known at their end.

Every statement is spaced.  Splitting its text therefore gives its names, its
words and its marks back one by one, for every dialect and for any table names.
-/

/-- What is known where one fragment ends and the next begins. -/
inductive Edge where
  /-- Whatever comes next begins a lexeme. -/
  | firm
  /-- A break that comes next begins a lexeme. -/
  | loose
deriving DecidableEq

/-- The edge after the characters that left this pending. -/
def Edge.Holds (dialect : Dialect) (pending : Pending) : Edge → Prop
  | .firm => pending.Firm dialect
  | .loose => pending.Loose dialect

namespace Fragment

/-- The lexemes of fragments, the next parameter having the given number. -/
def lexemesFrom (dialect : Dialect) (tables : TableNames) : Nat → List Fragment → List Lexeme
  | _, [] => []
  | number, .text content :: rest =>
    scan dialect content.toList ++ lexemesFrom dialect tables number rest
  | number, .name known :: rest =>
    .name (known.resolve tables) :: lexemesFrom dialect tables number rest
  | number, .bind _ :: rest =>
    .place (String.ofList (dialect.placeholder number)) ::
      lexemesFrom dialect tables (number + 1) rest

/-! ## Joining rows of fragments -/

theorem parameters_append (left right : List Fragment) :
    parameters (left ++ right) = parameters left ++ parameters right :=
  List.filterMap_append

theorem renderFrom_append (dialect : Dialect) (tables : TableNames) (number : Nat)
    (left right : List Fragment) :
    renderFrom dialect tables number (left ++ right) =
      renderFrom dialect tables number left ++
        renderFrom dialect tables (number + (parameters left).length) right := by
  induction left generalizing number with
  | nil => rfl
  | cons fragment left inductionHypothesis =>
      cases fragment with
      | text content =>
          simp only [List.cons_append, renderFrom, inductionHypothesis, List.append_assoc]
          rfl
      | name known =>
          simp only [List.cons_append, renderFrom, inductionHypothesis, List.append_assoc]
          rfl
      | bind parameter =>
          simp only [List.cons_append, renderFrom, inductionHypothesis, List.append_assoc,
            Nat.add_assoc, Nat.add_comm 1]
          rfl

theorem lexemesFrom_append (dialect : Dialect) (tables : TableNames) (number : Nat)
    (left right : List Fragment) :
    lexemesFrom dialect tables number (left ++ right) =
      lexemesFrom dialect tables number left ++
        lexemesFrom dialect tables (number + (parameters left).length) right := by
  induction left generalizing number with
  | nil => rfl
  | cons fragment left inductionHypothesis =>
      cases fragment with
      | text content =>
          simp only [List.cons_append, lexemesFrom, inductionHypothesis, List.append_assoc]
          rfl
      | name known =>
          simp only [List.cons_append, lexemesFrom, inductionHypothesis]
          rfl
      | bind parameter =>
          simp only [List.cons_append, lexemesFrom, inductionHypothesis, Nat.add_assoc,
            Nat.add_comm 1]
          rfl

/-! ## Spaced fragments -/

/-- The fragments grow together neither with what precedes them nor among
themselves, and their text is plain. -/
structure Spaced (before : Edge) (fragments : List Fragment) (after : Edge) : Prop where
  plain : ∀ content, .text content ∈ fragments → ∀ c ∈ content.toList, isPlain c = true
  reads : ∀ dialect tables number pending, before.Holds dialect pending →
    let reached := advance dialect pending (renderFrom dialect tables number fragments)
    reached.1 ++ reached.2.finish =
        pending.finish ++ lexemesFrom dialect tables number fragments ∧
      after.Holds dialect reached.2

namespace Spaced

variable {before middle after : Edge} {left right : List Fragment}

theorem nil (edge : Edge) : Spaced edge [] edge where
  plain content member := absurd member List.not_mem_nil
  reads dialect tables number pending known := by
    simp only [renderFrom, lexemesFrom, Lexeme.advance_nil, List.nil_append, List.append_nil,
      true_and]
    exact known

theorem append (first : Spaced before left middle) (second : Spaced middle right after) :
    Spaced before (left ++ right) after where
  plain content member := by
    rcases List.mem_append.mp member with inLeft | inRight
    · exact first.plain content inLeft
    · exact second.plain content inRight
  reads dialect tables number pending known := by
    have leftReads := first.reads dialect tables number pending known
    have rightReads := second.reads dialect tables (number + (parameters left).length) _ leftReads.2
    simp only [renderFrom_append, lexemesFrom_append, Lexeme.advance_append]
    refine ⟨?_, rightReads.2⟩
    rw [List.append_assoc, rightReads.1, ← List.append_assoc, leftReads.1, List.append_assoc]

theorem loose_after (spaced : Spaced before left .firm) : Spaced before left .loose where
  plain := spaced.plain
  reads dialect tables number pending known :=
    have read := spaced.reads dialect tables number pending known
    ⟨read.1, read.2.loose⟩

theorem empty : Spaced .firm [] .loose :=
  (nil .firm).loose_after

/-! ### Single fragments -/

theorem name (known : Name) : Spaced .firm [.name known] .loose where
  plain content member := by simp at member
  reads dialect tables number pending firm := by
    have nonempty : dialect.quoteName (known.resolve tables).toList ≠ [] := List.cons_ne_nil _ _
    have stops := Lexeme.advance_of_stop (fun c _ => firm c) nonempty
    simp only [renderFrom, lexemesFrom, List.append_nil, stops, Lexeme.advance_quoteName]
    refine ⟨by simp [Pending.finish], ?_⟩
    intro c breaks
    have notQuote := Lexeme.plain_ne (Lexeme.plain_of_break breaks) (Lexeme.quote_not_plain dialect)
    simp [Pending.extend?, notQuote]

theorem bind (parameter : Parameter) : Spaced .firm [.bind parameter] .loose where
  plain content member := by simp at member
  reads dialect tables number pending firm := by
    have nonempty : dialect.placeholder number ≠ [] := by
      cases dialect <;> exact List.cons_ne_nil _ _
    have stops := Lexeme.advance_of_stop (fun c _ => firm c) nonempty
    simp only [renderFrom, lexemesFrom, List.append_nil, stops, Lexeme.advance_placeholder]
    refine ⟨by simp [Pending.finish], ?_⟩
    intro c breaks
    have notWord := (Lexeme.break_ends breaks).1
    have notDigit : c.isDigit = false := by
      simp only [Lexeme.isWordChar, Char.isAlphanum, Bool.or_eq_false_iff] at notWord
      exact notWord.1.1.2
    simp [Pending.extend?, notDigit]

/-- A text that can stand between two edges. -/
def textFits (before : Edge) (content : String) (after : Edge) : Bool :=
  content.toList.all isPlain &&
    content.toList.head?.any (fun c => before == .firm || isBreak c) &&
    content.toList.getLast?.any (fun c => after == .loose || isBreak c)

theorem textFits_iff {content : String} :
    textFits before content after = true ↔
      (∀ c ∈ content.toList, isPlain c = true) ∧
        (∃ c, content.toList.head? = some c ∧ (before = .firm ∨ isBreak c = true)) ∧
        (∃ c, content.toList.getLast? = some c ∧ (after = .loose ∨ isBreak c = true)) := by
  simp only [textFits, Bool.and_eq_true, List.all_eq_true, Option.any_eq_true, Bool.or_eq_true,
    beq_iff_eq, and_assoc]

/-- Texts that begin and end with breaks, where they have to, part what stands
around them. -/
theorem text {content : String} (fits : textFits before content after = true) :
    Spaced before [.text content] after := by
  obtain ⟨plain, ⟨first, isFirst, opening⟩, ⟨last, isLast, closing⟩⟩ := textFits_iff.mp fits
  refine ⟨?_, ?_⟩
  · intro other member
    have same : other = content := by simpa using member
    exact same ▸ plain
  · intro dialect tables number pending known
    have nonempty : content.toList ≠ [] := by
      intro none
      rw [none] at isFirst
      cases isFirst
    have stops : ∀ c ∈ content.toList.head?, pending.extend? dialect c = none := by
      intro c member
      have same : first = c := Option.some.inj (isFirst.symm.trans member)
      subst same
      cases before with
      | firm => exact known first
      | loose => exact known first (opening.resolve_left (by intro impossible; cases impossible))
    simp only [renderFrom, lexemesFrom, List.append_nil, Lexeme.advance_of_stop stops nonempty]
    refine ⟨List.append_assoc _ _ _, ?_⟩
    cases after with
    | loose => exact Lexeme.loose_advance_plain dialect plain
    | firm =>
        have breaks := closing.resolve_left (by intro impossible; cases impossible)
        obtain ⟨init, split⟩ := List.getLast?_eq_some_iff.mp isLast
        rw [split] at plain ⊢
        exact Lexeme.firm_advance_break dialect
          (fun c member => plain c (List.mem_append_left _ member)) breaks

/-! ### Fragments in front of others -/

theorem textCons {content : String} (fits : textFits before content middle = true)
    (rest : Spaced middle right after) : Spaced before (.text content :: right) after :=
  (text fits).append rest

theorem nameCons {known : Name} (rest : Spaced .loose right after) :
    Spaced .firm (.name known :: right) after :=
  (name known).append rest

/-- Items with a text between them that parts them. -/
theorem separate {separator : String} (fits : textFits .loose separator .firm = true)
    {items : List (List Fragment)} (spaced : ∀ item ∈ items, Spaced .firm item .loose) :
    Spaced .firm (Fragment.separate separator items) .loose := by
  induction items with
  | nil => exact empty
  | cons first others inductionHypothesis =>
      have firstSpaced := spaced first List.mem_cons_self
      have othersSpaced := inductionHypothesis
        (fun item member => spaced item (List.mem_cons_of_mem first member))
      cases others with
      | nil => exact firstSpaced
      | cons second others => exact firstSpaced.append (textCons fits othersSpaced)

/-- Pieces that each begin with a break. -/
theorem flatMap {α : Type} {items : List α} {write : α → List Fragment}
    (spaced : ∀ item ∈ items, Spaced .loose (write item) .loose) :
    Spaced .loose (items.flatMap write) .loose := by
  induction items with
  | nil => exact nil .loose
  | cons first others inductionHypothesis =>
      rw [List.flatMap_cons]
      exact (spaced first List.mem_cons_self).append
        (inductionHypothesis (fun item member => spaced item (List.mem_cons_of_mem first member)))

end Spaced
end Fragment

open Fragment

/-! ## Statements -/

theorem Relation.spaced (relation : Relation) : Spaced .firm relation.fragments .loose :=
  .name _

theorem ColumnRef.spaced (reference : ColumnRef) : Spaced .firm reference.fragments .loose :=
  .nameCons (.textCons (by decide) (.name _))

theorem comparison_spaced {column : ColumnRef} {sign : String} {parameter : Parameter}
    (fits : Spaced.textFits .loose sign .firm = true) :
    Spaced .firm (comparison column sign parameter) .loose :=
  column.spaced.append (.textCons fits (.bind _))

theorem Test.spaced (test : Test) : Spaced .firm test.fragments .loose := by
  cases test with
  | compare column operator parameter =>
      apply comparison_spaced
      cases operator <;> decide
  | labelled column operator key value =>
      have membership : Spaced .loose [.text (Test.membership operator)] .firm := by
        apply Spaced.text
        cases operator <;> decide
      refine (((((((column.spaced.append membership).append (ColumnRef.spaced _)).append
        (.text (by decide))).append (Relation.spaced _)).append (.text (by decide))).append
        (comparison_spaced (by decide))).append (?_ : Spaced .loose _ .loose)).append
        (.text (by decide))
      cases value with
      | none => exact .nil .loose
      | some content => exact .textCons (by decide) (comparison_spaced (by decide))

namespace Condition

theorem parenthesized_spaced {fragments : List Fragment} (spaced : Spaced .firm fragments .loose) :
    Spaced .firm (parenthesized fragments) .loose :=
  .textCons (by decide) (spaced.append (.text (by decide)))

theorem spaced (condition : Condition) : Spaced .firm condition.fragments .loose := by
  induction condition with
  | test single => exact single.spaced
  | joined left connective right inductionHypothesis =>
      have word : Spaced .loose (.text (connectiveWord connective) :: right.fragments) .loose := by
        cases connective <;> exact .textCons (by decide) right.spaced
      rw [Condition.fragments]
      split
      · exact inductionHypothesis.append word
      · exact (parenthesized_spaced inductionHypothesis).append word

theorem conjunct_spaced (condition : Condition) : Spaced .firm condition.conjunct .loose := by
  cases condition with
  | test single => exact single.spaced
  | joined left connective right => exact parenthesized_spaced (spaced _)

end Condition

theorem Join.spaced (join : Join) : Spaced .loose join.fragments .loose := by
  have opening : Spaced .loose [.text (if join.outer then " LEFT JOIN " else " INNER JOIN ")]
      .firm := by
    apply Spaced.text
    cases join.outer <;> decide
  have tests : Spaced .loose (join.tests.flatMap fun test => .text " AND " :: test.fragments)
      .loose :=
    .flatMap (fun test _ => .textCons (by decide) test.spaced)
  refine ((((((opening.append (Relation.spaced _)).append (?_ : Spaced .loose _ .loose)).append
    (.text (by decide))).append join.left.spaced).append (.text (by decide))).append
    join.right.spaced).append tests
  cases join.number with
  | none => exact .nil .loose
  | some number => exact .textCons (by decide) (Relation.spaced _)

theorem Projection.spaced (projection : Projection) :
    Spaced .firm projection.fragments .loose := by
  have named (as : Column) : Spaced .loose (Projection.named as) .loose :=
    .textCons (by decide) (.name _)
  cases projection with
  | all relation => exact relation.spaced.append (.text (by decide))
  | column reference => exact reference.spaced
  | renamed reference as => exact reference.spaced.append (named as)
  | least reference as =>
      exact .textCons (by decide) (reference.spaced.append (.textCons (by decide) (named as)))
  | countDistinct reference as =>
      exact .textCons (by decide) (reference.spaced.append (.textCons (by decide) (named as)))
  | countRows as => exact .textCons (by decide) (named as)
  | leastOfRows reference as =>
      exact .textCons (by decide) (reference.spaced.append (.textCons (by decide) (named as)))

namespace Select

theorem clause_spaced {opening separator : String} {items : List (List Fragment)}
    (openingFits : Spaced.textFits .loose opening .firm = true)
    (separatorFits : Spaced.textFits .loose separator .firm = true)
    (spaced : ∀ item ∈ items, Spaced .firm item .loose) :
    Spaced .loose (clause opening separator items) .loose := by
  rw [clause]
  split
  · exact .nil .loose
  · exact .textCons openingFits (.separate separatorFits spaced)

theorem window_spaced {opening : String} (count : Option Nat)
    (fits : Spaced.textFits .loose opening .firm = true) :
    Spaced .loose (window opening count) .loose := by
  cases count with
  | none => exact .nil .loose
  | some count => exact .textCons fits (.bind _)

theorem spaced (select : Select) : Spaced .firm select.fragments .loose := by
  have projections : Spaced .firm
      (Fragment.separate ", " (select.projections.map Projection.fragments)) .loose :=
    .separate (by decide) (List.forall_mem_map.mpr (fun projection _ => projection.spaced))
  have conditions : Spaced .loose select.conditionClause .loose :=
    clause_spaced (by decide) (by decide)
      (List.forall_mem_map.mpr (fun condition _ => condition.conjunct_spaced))
  have grouping : Spaced .loose
      (clause " GROUP BY " ", " (select.grouping.map ColumnRef.fragments)) .loose :=
    clause_spaced (by decide) (by decide)
      (List.forall_mem_map.mpr (fun reference _ => reference.spaced))
  have ordering : Spaced .loose
      (clause " ORDER BY " ", " (select.ordering.map ordered)) .loose := by
    refine clause_spaced (by decide) (by decide) (List.forall_mem_map.mpr ?_)
    intro item _
    have fits : Spaced.textFits .loose item.2.word .loose = true := by
      cases item.2 <;> decide
    exact item.1.spaced.append (.text fits)
  have head : Spaced .firm (.text "SELECT " ::
      Fragment.separate ", " (select.projections.map Projection.fragments) ++
      .text " FROM " :: select.source.fragments) .loose :=
    (Spaced.textCons (by decide) projections).append (.textCons (by decide) select.source.spaced)
  exact (((((head.append (.flatMap (fun join _ => join.spaced))).append conditions).append
    grouping).append ordering).append (window_spaced _ (by decide))).append
    (window_spaced _ (by decide))

end Select

/-- No two fragments of a statement grow together. -/
theorem Statement.spaced (statement : Statement) : Spaced .firm statement.fragments .loose := by
  cases statement with
  | plain select => exact select.spaced
  | paged rows page =>
      have head : Spaced .firm (.text "WITH " :: Relation.page.fragments) .loose :=
        .textCons (by decide) (Relation.spaced _)
      have inner : Spaced .loose (.text " AS (" :: rows.fragments) .loose :=
        .textCons (by decide) rows.spaced
      have outer : Spaced .loose (.text ") " :: page.fragments) .loose :=
        .textCons (by decide) page.spaced
      exact (head.append inner).append outer

/-- Splitting the text of a statement gives back its names, its words and the
marks of its parameters. -/
theorem Statement.scan_render (dialect : Dialect) (tables : TableNames) (statement : Statement) :
    scan dialect (renderFrom dialect tables 1 statement.fragments) =
      lexemesFrom dialect tables 1 statement.fragments :=
  (statement.spaced.reads dialect tables 1 .nothing (fun _ => rfl)).1

end Sql
end TestQuery
