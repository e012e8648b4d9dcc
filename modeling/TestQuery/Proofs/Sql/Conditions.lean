import TestQuery.Proofs.Sql.WhereClause

namespace TestQuery
namespace Sql

open Fragment (written written_append written_cons)

/-!
# What written conditions mean

The conditions of a selection are written with as few parentheses as the reader
needs: a chain gets them where its connective changes, and around the whole of it
when it stands beside other conditions.  Read by the grammar of conditions, the
text of a chain is the chain joined from left to right, and the text of all
conditions is their conjunction.

Truth values are left open.  A `Logic` has as many of them as it likes, provided
that conjunction may be regrouped and reordered; two-valued logic and the
three-valued one of databases are examples.
-/

/-! ## Truth -/

/-- A logic to evaluate conditions in. -/
structure Logic (T : Type) where
  and : T → T → T
  or : T → T → T
  yes : T
  and_assoc : ∀ first second third, and (and first second) third = and first (and second third)
  and_comm : ∀ first second, and first second = and second first
  and_yes : ∀ value, and value yes = value

/-- The truth values of a database: a comparison with a missing value is neither
true nor false. -/
inductive Truth where
  | no
  | unknown
  | yes
deriving DecidableEq

namespace Truth

/-- A conjunction is false if one part is, else unknown if one part is. -/
def and : Truth → Truth → Truth
  | .no, _ | _, .no => .no
  | .yes, .yes => .yes
  | _, _ => .unknown

/-- A disjunction is true if one part is, else unknown if one part is. -/
def or : Truth → Truth → Truth
  | .yes, _ | _, .yes => .yes
  | .no, .no => .no
  | _, _ => .unknown

end Truth

namespace Logic

def twoValued : Logic Bool where
  and := (· && ·)
  or := (· || ·)
  yes := true
  and_assoc := Bool.and_assoc
  and_comm := Bool.and_comm
  and_yes := Bool.and_true

/-- The logic of databases. -/
def threeValued : Logic Truth where
  and := Truth.and
  or := Truth.or
  yes := .yes
  and_assoc := by
    intro first second third
    cases first <;> cases second <;> cases third <;> rfl
  and_comm := by
    intro first second
    cases first <;> cases second <;> rfl
  and_yes := by
    intro value
    cases value <;> rfl

variable {T : Type} (logic : Logic T)

/-- The operation of a connective. -/
def join : Connective → T → T → T
  | .and => logic.and
  | .or => logic.or

def all (values : List T) : T :=
  values.foldl logic.and logic.yes

theorem foldl_and (start : T) (values : List T) :
    values.foldl logic.and start = logic.and start (logic.all values) := by
  induction values generalizing start with
  | nil => exact (logic.and_yes start).symm
  | cons value values inductionHypothesis =>
      have yesAnd : logic.and logic.yes value = value := by
        rw [logic.and_comm, logic.and_yes]
      rw [all, List.foldl_cons, List.foldl_cons, yesAnd, inductionHypothesis,
        inductionHypothesis value, logic.and_assoc]

theorem all_append (left right : List T) :
    logic.all (left ++ right) = logic.and (logic.all left) (logic.all right) := by
  rw [all, List.foldl_append, foldl_and]
  rfl

theorem all_cons (value : T) (values : List T) :
    logic.all (value :: values) = logic.and value (logic.all values) := by
  have yesAnd : logic.and logic.yes value = value := by
    rw [logic.and_comm, logic.and_yes]
  rw [all, List.foldl_cons, yesAnd, foldl_and]

end Logic

def Formula.eval {T : Type} (logic : Logic T) (truth : Atom → T) : Formula → T
  | .atom single => truth single
  | .joined connective left right =>
    logic.join connective (left.eval logic truth) (right.eval logic truth)

/-! ## Tests and conditions as formulas -/

section

variable (dialect : Dialect) (tables : TableNames)

def ColumnRef.field (reference : ColumnRef) : Field :=
  ⟨(Name.relation reference.relation).resolve tables, reference.column.spelling⟩

def Test.atom : Test → Atom
  | .compare column operator parameter =>
    .compare ⟨column.field tables, operator, dialect.bind parameter⟩
  | .labelled column operator key value =>
    .member (column.field tables) (operator = .notEqual)
      ((Table.labels.col .sessionId).field tables) tables.labels
      ⟨(Table.labels.col .key).field tables, .equal, .string (some key)⟩
      (value.toList.map fun content =>
        ⟨(Table.labels.col .value).field tables, .equal, .string (some content)⟩)

/-- A condition as it is read: joined from left to right. -/
def Condition.formula : Condition → Formula
  | .test single => .atom (single.atom dialect tables)
  | .joined left connective right =>
    .joined connective left.formula (.atom (right.atom dialect tables))

theorem Test.written_eq (test : Test) :
    written dialect tables test.fragments = (test.atom dialect tables).lexemes := by
  cases test with
  | compare column operator parameter => cases dialect <;> cases operator <;> rfl
  | labelled column operator key value =>
      cases dialect <;> cases operator <;> cases value <;> rfl

/-! ## Reading conditions back -/

/-- How tightly a condition holds together without parentheses. -/
def Connective.level : Option Connective → Level
  | none => .operand
  | some .and => .conjunction
  | some .or => .disjunction

theorem reads_of_operand {lexemes : List Lexeme} {formula : Formula}
    (read : Reads .operand lexemes formula) (connective : Option Connective) :
    Reads (Connective.level connective) lexemes formula := by
  cases connective with
  | none => exact read
  | some connective =>
      cases connective with
      | and => exact .operand read
      | or => exact .conjunction (.operand read)

theorem reads_disjunction {lexemes : List Lexeme} {formula : Formula}
    {connective : Option Connective} (read : Reads (Connective.level connective) lexemes formula) :
    Reads .disjunction lexemes formula := by
  cases connective with
  | none => exact .conjunction (.operand read)
  | some connective =>
      cases connective with
      | and => exact .conjunction read
      | or => exact read

theorem reads_joined {left right : List Lexeme} {first second : Formula} (connective : Connective)
    (leftRead : Reads (Connective.level (some connective)) left first)
    (rightRead : Reads .operand right second) :
    Reads (Connective.level (some connective))
      (left ++ (Fragment.filled dialect tables (.text (connectiveWord connective)) ++ right))
      (.joined connective first second) := by
  cases connective with
  | and =>
      have word : Fragment.filled dialect tables (.text (connectiveWord .and)) =
          [.word "AND"] := by
        cases dialect <;> rfl
      rw [word]
      exact .and leftRead rightRead
  | or =>
      have word : Fragment.filled dialect tables (.text (connectiveWord .or)) =
          [.word "OR"] := by
        cases dialect <;> rfl
      rw [word]
      exact .or leftRead (.operand rightRead)

theorem Test.reads (test : Test) :
    Reads .operand (written dialect tables test.fragments)
      (.atom (test.atom dialect tables)) := by
  rw [test.written_eq]
  exact .atom _

/-- A condition reads as the chain that it is, joined from left to right: where
the connective changes, parentheses keep the left part together. -/
theorem Condition.reads (condition : Condition) :
    Reads (Connective.level condition.connective?)
      (written dialect tables condition.fragments) (condition.formula dialect tables) := by
  induction condition with
  | test single => exact single.reads dialect tables
  | joined left connective right inductionHypothesis =>
      rw [Condition.fragments, written_append, written_cons]
      apply reads_joined dialect tables connective _ (right.reads dialect tables)
      split
      · rename_i unchanged
        rcases unchanged with same | none
        · rw [same] at inductionHypothesis
          exact inductionHypothesis
        · rw [none] at inductionHypothesis
          exact reads_of_operand inductionHypothesis _
      · rw [written_parenthesized]
        exact reads_of_operand (.enclosed (reads_disjunction inductionHypothesis)) _

/-- Beside others, a condition reads as one operand. -/
theorem Condition.conjunct_reads (condition : Condition) :
    Reads .operand (written dialect tables condition.conjunct)
      (condition.formula dialect tables) := by
  cases condition with
  | test single => exact single.reads dialect tables
  | joined left connective right =>
      rw [Condition.conjunct, written_parenthesized]
      exact .enclosed (reads_disjunction (Condition.reads dialect tables _))

/-- All of the conditions, as one formula. -/
def conjoined (first : Condition) (others : List Condition) : Formula :=
  others.foldl (fun formula condition => .joined .and formula (condition.formula dialect tables))
    (first.formula dialect tables)

theorem separate_cons (separator : String) (first : List Fragment) (others : List (List Fragment)) :
    Fragment.separate separator (first :: others) =
      first ++ others.flatMap (.text separator :: ·) := by
  induction others generalizing first with
  | nil => exact (List.append_nil first).symm
  | cons second others inductionHypothesis =>
      rw [Fragment.separate, inductionHypothesis second, List.flatMap_cons]
      · rfl
      · exact List.cons_ne_nil _ _

theorem reads_conjoined {lexemes : List Lexeme} {formula : Formula}
    (read : Reads .conjunction lexemes formula) (others : List Condition) :
    Reads .conjunction
      (lexemes ++ written dialect tables
        ((others.map Condition.conjunct).flatMap (.text " AND " :: ·)))
      (others.foldl
        (fun formula condition => .joined .and formula (condition.formula dialect tables))
        formula) := by
  have word : Fragment.filled dialect tables (.text " AND ") = [.word "AND"] := by
    cases dialect <;> rfl
  induction others generalizing lexemes formula with
  | nil => exact (List.append_nil lexemes).symm ▸ read
  | cons condition others inductionHypothesis =>
      rw [List.map_cons, List.flatMap_cons, written_append, written_cons, word,
        ← List.append_assoc, List.foldl_cons]
      exact inductionHypothesis (.and read (condition.conjunct_reads dialect tables))

/-- The conditions of a selection read as their conjunction. -/
theorem Select.reads_conditions {select : Select} {first : Condition} {others : List Condition}
    (conditions : select.conditions = first :: others) :
    Reads .disjunction (select.writtenConditions dialect tables)
      (conjoined dialect tables first others) := by
  rw [Select.writtenConditions, conditions, List.map_cons, separate_cons, written_append]
  exact .conjunction
    (reads_conjoined dialect tables (.operand (first.conjunct_reads dialect tables)) others)

/-- A conjunction is true as far as all of its parts are. -/
theorem eval_conjoined {T : Type} (logic : Logic T) (truth : Atom → T) (first : Condition)
    (others : List Condition) :
    (conjoined dialect tables first others).eval logic truth =
      logic.all ((first :: others).map fun condition =>
        (condition.formula dialect tables).eval logic truth) := by
  have folded : ∀ formula : Formula,
      (others.foldl
        (fun formula condition => .joined .and formula (condition.formula dialect tables))
        formula).eval logic truth =
      (others.map fun condition => (condition.formula dialect tables).eval logic truth).foldl
        logic.and (formula.eval logic truth) := by
    induction others with
    | nil => exact fun formula => rfl
    | cons condition others inductionHypothesis =>
        intro formula
        rw [List.foldl_cons, inductionHypothesis]
        rfl
  rw [conjoined, folded, Logic.foldl_and, List.map_cons, Logic.all_cons]

end

end Sql
end TestQuery
