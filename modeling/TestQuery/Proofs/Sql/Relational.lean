import Mathlib.Data.Multiset.Bind
import Mathlib.Data.Multiset.Dedup
import Mathlib.Data.Multiset.Fold
import TestQuery.Proofs.Sql.Conditions

namespace TestQuery
namespace Sql

/-!
# What statements select

The relational reading of a statement over a database.  Tables are bags of rows, a cell
may be empty, and a comparison with an empty cell is neither true nor false; a row is
selected if its conditions are true.  The order of rows is left open: an answer takes
its window from the rows in some order.

All of it computes, so that a statement can be run on a small database.
-/

/-! ## Cells -/

/-- A moment, to the nanosecond. -/
structure Instant where
  year : Int
  month : Nat
  day : Nat
  hour : Nat
  minute : Nat
  second : Nat
  nanosecond : Nat
deriving DecidableEq

/-- What a cell holds. -/
inductive Datum where
  | text (content : String)
  | id (id : Uuid)
  | number (value : Int)
  | moment (instant : Instant)
deriving DecidableEq

/-- A cell, which may be empty. -/
abbrev Cell := Option Datum

/-- Is the first list the smaller one, or the same, by the first place where they differ? -/
def fieldsAtMost : List Int → List Int → Bool
  | [], _ => true
  | _ :: _, [] => false
  | first :: firsts, second :: seconds =>
    decide (first < second) || (first == second && fieldsAtMost firsts seconds)

namespace Instant

def fields (instant : Instant) : List Int :=
  [instant.year, instant.month, instant.day, instant.hour, instant.minute, instant.second,
    instant.nanosecond]

/-- The beginning of a second. -/
def ofTimestamp (moment : Timestamp) : Instant :=
  ⟨moment.year, moment.month, moment.day, moment.hour, moment.minute, moment.second, 0⟩

end Instant

namespace Datum

/-- The order of numbers and of moments. -/
def atMost : Datum → Datum → Bool
  | .number first, .number second => decide (first ≤ second)
  | .moment first, .moment second => fieldsAtMost first.fields second.fields
  | _, _ => false

def number? : Datum → Option Int
  | .number value => some value
  | _ => none

end Datum

/-- What a parameter is compared as. -/
def Parameter.datum : Parameter → Datum
  | .text content => .text content
  | .id known => .id known
  | .status outcome => .number outcome.rank
  | .moment second => .moment (.ofTimestamp second)
  | .count size => .number size

def Comparison.holds : Comparison → Datum → Datum → Bool
  | .equal, left, right => left == right
  | .notEqual, left, right => left != right
  | .atLeast, left, right => right.atMost left
  | .atMost, left, right => left.atMost right

namespace Truth

def ofBool : Bool → Truth
  | true => .yes
  | false => .no

/-- What is unknown stays so. -/
def not : Truth → Truth
  | .no => .yes
  | .unknown => .unknown
  | .yes => .no

instance : Std.Commutative Truth.or where
  comm first second := by cases first <;> cases second <;> rfl

instance : Std.Associative Truth.or where
  assoc first second third := by cases first <;> cases second <;> cases third <;> rfl

theorem no_or (truth : Truth) : Truth.or .no truth = truth := by
  cases truth <;> rfl

theorem and_eq_yes_iff {left right : Truth} :
    Truth.and left right = .yes ↔ left = .yes ∧ right = .yes := by
  cases left <;> cases right <;> simp [Truth.and]

@[simp]
theorem ofBool_eq_yes_iff {value : Bool} : ofBool value = .yes ↔ value = true := by
  cases value <;> simp [ofBool]

end Truth

/-- A conjunction is true if all its parts are. -/
theorem all_eq_yes_iff {values : List Truth} :
    Logic.threeValued.all values = .yes ↔ ∀ value ∈ values, value = .yes := by
  induction values with
  | nil => exact ⟨fun _ => nofun, fun _ => rfl⟩
  | cons value values inductionHypothesis =>
      rw [Logic.all_cons, List.forall_mem_cons, ← inductionHypothesis]
      exact Truth.and_eq_yes_iff

namespace Cell

/-- Compare two cells; where one is empty nothing is known. -/
def compare (comparison : Comparison) : Cell → Cell → Truth
  | some left, some right => .ofBool (comparison.holds left right)
  | _, _ => .unknown

/-- Is the cell equal to one of the cells? -/
def among (cell : Cell) (cells : Multiset Cell) : Truth :=
  (cells.map (cell.compare .equal)).fold Truth.or .no

theorem compare_equal_eq_yes_iff {left right : Cell} :
    left.compare .equal right = .yes ↔ left ≠ none ∧ left = right := by
  cases left with
  | none => simp [compare]
  | some left => cases right <;> simp [compare, Comparison.holds]

theorem compare_equal_of_ne {left right : Cell} (known : left ≠ none) (otherKnown : right ≠ none)
    (apart : left ≠ right) : left.compare .equal right = .no := by
  cases left with
  | none => exact absurd rfl known
  | some left =>
      cases right with
      | none => exact absurd rfl otherKnown
      | some right =>
          have differ : (left == right) = false := by
            simpa using apart
          rw [compare, Comparison.holds, differ]
          rfl

/-- Cells that are not equal to the cell can be left out. -/
theorem among_filter {α : Type} {cell : Cell} {rows : Multiset α} (value : α → Cell)
    (relevant : α → Prop) [DecidablePred relevant]
    (others : ∀ row ∈ rows, ¬ relevant row → cell.compare .equal (value row) = .no) :
    cell.among ((rows.filter relevant).map value) = cell.among (rows.map value) := by
  induction rows using Multiset.induction_on with
  | empty => rfl
  | cons row rows inductionHypothesis =>
      have rest := inductionHypothesis fun other member =>
        others other (Multiset.mem_cons_of_mem member)
      unfold among at rest ⊢
      by_cases isRelevant : relevant row
      · rw [Multiset.filter_cons_of_pos _ isRelevant]
        simp only [Multiset.map_cons, Multiset.fold_cons_left, rest]
      · rw [Multiset.filter_cons_of_neg _ isRelevant]
        simp only [Multiset.map_cons, Multiset.fold_cons_left, rest,
          others row (Multiset.mem_cons_self row rows) isRelevant, Truth.no_or]

end Cell

/-- The smaller of two numbers, or the only one. -/
def lesser : Option Int → Option Int → Option Int
  | none, other => other
  | some first, none => some first
  | some first, some second => some (if first ≤ second then first else second)

instance : Std.Commutative lesser where
  comm first second := by
    cases first with
    | none => cases second <;> rfl
    | some first =>
        cases second with
        | none => rfl
        | some second =>
            simp only [lesser]
            congr 1
            split <;> split <;> omega

instance : Std.Associative lesser where
  assoc first second third := by
    cases first with
    | none => rfl
    | some first =>
        cases second with
        | none => rfl
        | some second =>
            cases third with
            | none => rfl
            | some third =>
                simp only [lesser]
                congr 1
                repeat' split
                all_goals omega

/-- The least number in the cells; empty cells do not count. -/
def least (cells : Multiset Cell) : Cell :=
  ((cells.map (·.bind Datum.number?)).fold lesser none).map .number

/-- The number of different values in the cells; empty cells do not count. -/
def distinct (cells : Multiset Cell) : Cell :=
  some (.number (cells.filter (· ≠ none)).dedup.card)

/-! ## Rows -/

/-- The cells of a row, by the names of their columns. -/
abbrev Row := List (String × Cell)

/-- The cell of a column; there is nothing in a column that the row does not have. -/
def Row.get (row : Row) (column : Column) : Cell :=
  (row.lookup column.spelling).join

structure Database where
  rows : Table → Multiset Row

/-- One row of each relation; where there is none, all its cells are empty. -/
abbrev Combination := Relation → Row

namespace Combination

def get (combination : Combination) (reference : ColumnRef) : Cell :=
  (combination reference.relation).get reference.column

def set (combination : Combination) (relation : Relation) (row : Row) : Combination :=
  fun other => if other = relation then row else combination other

/-- A row of one relation and of no other. -/
def single (relation : Relation) (row : Row) : Combination :=
  set (fun _ => []) relation row

@[simp]
theorem set_same (combination : Combination) (relation : Relation) (row : Row) :
    combination.set relation row relation = row :=
  if_pos rfl

theorem set_other (combination : Combination) {relation other : Relation} (row : Row)
    (apart : other ≠ relation) : combination.set relation row other = combination other :=
  if_neg apart

@[simp]
theorem single_same (relation : Relation) (row : Row) : single relation row relation = row :=
  set_same _ _ _

end Combination

/-! ## Conditions -/

def Test.column : Test → ColumnRef
  | .compare column _ _ => column
  | .labelled column _ _ _ => column

def Condition.tests : Condition → List Test
  | .test single => [single]
  | .joined left _ right => left.tests ++ [right]

/-- The tests of a selection, those of its joins first. -/
def Select.tests (select : Select) : List Test :=
  select.joins.flatMap Join.tests ++ select.conditions.flatMap Condition.tests

/-- The sessions of the labels with a key, and with a value if one is given. -/
def Database.sessionsLabelled (db : Database) (key : String) (value : Option String) :
    Multiset Cell :=
  ((db.rows .labels).filter fun label =>
    Logic.threeValued.all
      ((label.get .key).compare .equal (some (.text key)) ::
        value.toList.map fun content =>
          (label.get .value).compare .equal (some (.text content))) = .yes).map
    (·.get .sessionId)

section

variable (db : Database)

def Test.truth (combination : Combination) : Test → Truth
  | .compare column comparison parameter =>
    (combination.get column).compare comparison (some parameter.datum)
  | .labelled column .equal key value =>
    (combination.get column).among (db.sessionsLabelled key value)
  | .labelled column .notEqual key value =>
    ((combination.get column).among (db.sessionsLabelled key value)).not

def Condition.truth (combination : Combination) : Condition → Truth
  | .test single => single.truth db combination
  | .joined left connective right =>
    Logic.threeValued.join connective (left.truth combination) (right.truth db combination)

/-! ## Joins -/

def Join.relation (join : Join) : Relation :=
  match join.number with
  | none => .table join.table
  | some number => .label number

/-- The row may be joined. -/
def Join.Fits (join : Join) (combination : Combination) (row : Row) : Prop :=
  let joined := combination.set join.relation row
  Logic.threeValued.all ((joined.get join.left).compare .equal (joined.get join.right) ::
    join.tests.map (·.truth db joined)) = .yes

instance (join : Join) (combination : Combination) :
    DecidablePred (join.Fits db combination) :=
  fun _ => inferInstanceAs (Decidable (_ = Truth.yes))

/-- The combination with each of the rows that may be joined.  An outer join keeps it
where there is none. -/
def Join.extend (join : Join) (combination : Combination) : Multiset Combination :=
  let fitting := (db.rows join.table).filter (join.Fits db combination)
  if join.outer ∧ fitting = 0 then {combination.set join.relation []}
  else fitting.map (combination.set join.relation)

/-- The combinations with all joins made. -/
def joinAll (joins : List Join) (start : Multiset Combination) : Multiset Combination :=
  joins.foldl (fun combinations join => combinations.bind (join.extend db)) start

/-! ## Selections -/

namespace Select

def Holds (select : Select) (combination : Combination) : Prop :=
  Logic.threeValued.all (select.conditions.map (·.truth db combination)) = .yes

instance (select : Select) : DecidablePred (select.Holds db) :=
  fun _ => inferInstanceAs (Decidable (_ = Truth.yes))

/-- The combinations that are selected from the rows of the source. -/
def found (select : Select) (source : Multiset Row) : Multiset Combination :=
  (joinAll db select.joins (source.map (.single select.source))).filter (select.Holds db)

end Select

end

/-- What a projection gives for a combination in its group, the group being a part of
all that was found. -/
def Projection.cells (found group : Multiset Combination) (combination : Combination) :
    Projection → Row
  | .all relation => combination relation
  | .column reference => [(reference.column.spelling, combination.get reference)]
  | .renamed reference as => [(as.spelling, combination.get reference)]
  | .least reference as => [(as.spelling, Sql.least (group.map (·.get reference)))]
  | .countDistinct reference as => [(as.spelling, distinct (group.map (·.get reference)))]
  | .countRows as => [(as.spelling, some (.number found.card))]
  | .leastOfRows reference as => [(as.spelling, Sql.least (found.map (·.get reference)))]

namespace Select

/-- The values that combinations are grouped by. -/
def groupKey (select : Select) (combination : Combination) : List Cell :=
  select.grouping.map combination.get

/-- The row that a combination gives. -/
def given (select : Select) (found group : Multiset Combination) (combination : Combination) :
    Row :=
  select.projections.flatMap (Projection.cells found group combination)

/-- The rows that are given for what was found: one for each combination, or, where there
is a grouping, one for each group.  Combinations of a group give the same row, unless a
column is shown that the grouping leaves open. -/
def shown (select : Select) (found : Multiset Combination) : Multiset Row :=
  if select.grouping = [] then
    found.map fun combination => select.given found {combination} combination
  else
    (found.map fun combination =>
      (select.groupKey combination,
        select.given found
          (found.filter fun other => select.groupKey other = select.groupKey combination)
          combination)).dedup.map Prod.snd

/-- The rows of a selection, before its window is cut. -/
def result (select : Select) (db : Database) (source : Multiset Row) : Multiset Row :=
  select.shown (select.found db source)

/-- The window of rows in some order. -/
def cut (select : Select) (rows : List Row) : List Row :=
  match select.limit with
  | none => rows.drop (select.offset.getD 0)
  | some limit => (rows.drop (select.offset.getD 0)).take limit

end Select

/-! ## Statements -/

/-- The rows that a relation stands for, where a page is cut from the given rows. -/
def Database.source (db : Database) (pageRows : Multiset Row) : Relation → Multiset Row
  | .table table => db.rows table
  | .label _ => db.rows .labels
  | .page => pageRows

namespace Statement

/-- The rows that a page is cut from; those of a lookup. -/
def innerRows (db : Database) : Statement → Multiset Row
  | .plain select => select.result db (db.source 0 select.source)
  | .paged rows _ => rows.result db (db.source 0 rows.source)

/-- The rows that the statement gives, before a window is cut. -/
def rows (db : Database) : Statement → Multiset Row
  | .plain select => select.result db (db.source 0 select.source)
  | .paged rows page => page.result db (db.source (innerRows db (.paged rows page)) page.source)

/-- The selection of the rows that a page is cut from; that of a lookup. -/
def inner : Statement → Select
  | .plain select => select
  | .paged rows _ => rows

/-- The selection whose window is cut. -/
def outer : Statement → Select
  | .plain select => select
  | .paged _ page => page

/-- The rows may be handed over for the statement. -/
def Answers (db : Database) (statement : Statement) (answer : List Row) : Prop :=
  ∃ ordered : List Row, ordered = statement.rows db ∧ answer = statement.outer.cut ordered

end Statement

end Sql
end TestQuery
