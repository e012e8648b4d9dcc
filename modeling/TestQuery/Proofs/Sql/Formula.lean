import TestQuery.Proofs.Reader
import TestQuery.Proofs.Sql.Lexeme

namespace TestQuery
namespace Sql

/-!
# Reading conditions

The conditions of a statement are read here from its lexemes, as a database reads
them: what stands in parentheses first, then `AND`, then `OR`, each joining from
left to right.  The grammar is the relation `Reads`, which knows nothing of how
conditions are written.

The grammar is unambiguous.  `Formula.read?` takes the lexemes one after another
and keeps, for each parenthesis that is still open, what was joined before it; it
finds the formula of every condition that can be read.
-/

/-! ## Single tests -/

/-- A column with its relation, by their names. -/
structure Field where
  relation : String
  column : String
deriving DecidableEq

/-- The sign of a comparison, without blanks. -/
def Comparison.symbol : Comparison → String
  | .equal => "="
  | .notEqual => "<>"
  | .atLeast => ">="
  | .atMost => "<="

/-- The comparison with the given sign. -/
def Comparison.ofSymbol? (symbol : String) : Option Comparison :=
  [Comparison.equal, .notEqual, .atLeast, .atMost].find? (·.symbol == symbol)

/-- A column compared with a value. -/
structure FieldTest where
  field : Field
  operator : Comparison
  value : Value
deriving DecidableEq

/-- A test without parts of its own: a comparison, or the question whether a column
is among those selected from a table by comparisons. -/
inductive Atom where
  | compare (test : FieldTest)
  | member (field : Field) (negated : Bool) (selected : Field) (source : String)
      (first : FieldTest) (others : List FieldTest)
deriving DecidableEq

namespace Lexeme

def opening : Lexeme := .sign "("

def closing : Lexeme := .sign ")"

end Lexeme

def Field.lexemes (field : Field) : List Lexeme :=
  [.name field.relation, .sign ".", .name field.column]

def FieldTest.lexemes (test : FieldTest) : List Lexeme :=
  test.field.lexemes ++ [.sign test.operator.symbol, .value test.value]

def Atom.lexemes : Atom → List Lexeme
  | .compare test => test.lexemes
  | .member field negated selected source first others =>
    field.lexemes ++ (if negated then [.word "NOT", .word "IN"] else [.word "IN"]) ++
      [.opening, .word "SELECT"] ++ selected.lexemes ++
      [.word "FROM", .name source, .word "WHERE"] ++ first.lexemes ++
      others.flatMap (fun test => .word "AND" :: test.lexemes) ++ [.closing]

/-! ## Formulas -/

/-- Tests joined by connectives. -/
inductive Formula where
  | atom (atom : Atom)
  | joined (connective : Connective) (left right : Formula)
deriving DecidableEq

/-- How tightly the parts of a formula are held together. -/
inductive Level where
  /-- A test, or anything in parentheses. -/
  | operand
  /-- Operands joined by `AND`. -/
  | conjunction
  /-- Conjunctions joined by `OR`. -/
  | disjunction
deriving DecidableEq

/-- The lexemes are a formula of the level. -/
inductive Reads : Level → List Lexeme → Formula → Prop where
  | atom (atom : Atom) : Reads .operand atom.lexemes (.atom atom)
  | enclosed {inside : List Lexeme} {formula : Formula} (read : Reads .disjunction inside formula) :
      Reads .operand (.opening :: (inside ++ [.closing])) formula
  | operand {lexemes : List Lexeme} {formula : Formula} (read : Reads .operand lexemes formula) :
      Reads .conjunction lexemes formula
  | and {left right : List Lexeme} {first second : Formula}
      (leftRead : Reads .conjunction left first) (rightRead : Reads .operand right second) :
      Reads .conjunction (left ++ .word "AND" :: right) (.joined .and first second)
  | conjunction {lexemes : List Lexeme} {formula : Formula}
      (read : Reads .conjunction lexemes formula) : Reads .disjunction lexemes formula
  | or {left right : List Lexeme} {first second : Formula}
      (leftRead : Reads .disjunction left first) (rightRead : Reads .conjunction right second) :
      Reads .disjunction (left ++ .word "OR" :: right) (.joined .or first second)

/-! ## A reader of formulas -/

namespace Lexeme

/-- Take one lexeme that `accept` can use. -/
def take {α : Type} (accept : Lexeme → Option α) : Consumer Lexeme Unit α :=
  Consumer.symbol () fun lexeme =>
    match accept lexeme with
    | some result => .ok result
    | none => .error ()

def takeOnly (expected : Lexeme) : Consumer Lexeme Unit Unit :=
  take fun lexeme => if lexeme = expected then some () else none

def takeName : Consumer Lexeme Unit String :=
  take fun
    | .name content => some content
    | _ => none

def takeValue : Consumer Lexeme Unit Value :=
  take fun
    | .value content => some content
    | _ => none

def takeComparison : Consumer Lexeme Unit Comparison :=
  take fun
    | .sign symbol => Comparison.ofSymbol? symbol
    | _ => none

end Lexeme

open Lexeme

def Field.reader : Consumer Lexeme Unit Field :=
  takeName.andThen fun relation => do
    takeOnly (.sign ".")
    let column ← takeName
    return ⟨relation, column⟩

def FieldTest.reader : Consumer Lexeme Unit FieldTest :=
  Field.reader.andThen fun field => do
    let operator ← takeComparison
    let content ← takeValue
    return ⟨field, operator, content⟩

namespace Atom

/-- Read whether another comparison follows in a selection. -/
def anotherTest : Consumer Lexeme Unit Bool :=
  take fun lexeme =>
    if lexeme = .word "AND" then some true else if lexeme = .closing then some false else none

/-- Read the selection that a column is looked for in, after `IN`. -/
def membershipReader (field : Field) (negated : Bool) : Reader Lexeme Unit Atom := do
  takeOnly .opening
  takeOnly (.word "SELECT")
  let selected ← Field.reader
  takeOnly (.word "FROM")
  let source ← takeName
  takeOnly (.word "WHERE")
  let tests ← Reader.separated FieldTest.reader anotherTest
  match tests with
  | [] => Reader.refuse ()
  | first :: others => return .member field negated selected source first others

/-- Read a test.  What follows the column tells its kind. -/
def reader : Consumer Lexeme Unit Atom :=
  Field.reader.andThen fun field => do
    let next ← Reader.peek
    if next = some (.word "IN") then
      takeOnly (.word "IN")
      membershipReader field false
    else if next = some (.word "NOT") then
      takeOnly (.word "NOT")
      takeOnly (.word "IN")
      membershipReader field true
    else
      let operator ← takeComparison
      let content ← takeValue
      return .compare ⟨field, operator, content⟩

end Atom

namespace Formula

/-- Join a formula to what stands before it, if anything does. -/
def joinTo (connective : Connective) (before : Option Formula) (formula : Formula) : Formula :=
  match before with
  | none => formula
  | some left => .joined connective left formula

/-- What was joined before a parenthesis was opened: before the last `OR`, and by
`AND` after it. -/
structure Outer where
  disjuncts : Option Formula
  conjuncts : Option Formula

mutual

/-- Read on where an operand is needed. -/
def readOperand? (stack : List Outer) (disjuncts conjuncts : Option Formula)
    (input : List Lexeme) : Option Formula :=
  match input with
  | [] => none
  | next :: rest =>
    if next = .opening then readOperand? (⟨disjuncts, conjuncts⟩ :: stack) none none rest
    else
      match _ : Atom.reader.run (next :: rest) with
      | .error _ => none
      | .ok (found, following) =>
        readConnective? stack disjuncts (joinTo .and conjuncts (.atom found)) following
termination_by input.length
decreasing_by
  · exact Nat.lt_succ_self _
  · exact Atom.reader.consumes ‹_›

/-- Read on where a connective, a closing parenthesis or the end is needed. -/
def readConnective? (stack : List Outer) (disjuncts : Option Formula) (conjuncts : Formula)
    (input : List Lexeme) : Option Formula :=
  match input with
  | [] =>
    match stack with
    | [] => some (joinTo .or disjuncts conjuncts)
    | _ :: _ => none
  | next :: rest =>
    if next = .word "AND" then readOperand? stack disjuncts (some conjuncts) rest
    else if next = .word "OR" then
      readOperand? stack (some (joinTo .or disjuncts conjuncts)) none rest
    else if next = .closing then
      match stack with
      | [] => none
      | outer :: stack =>
        readConnective? stack outer.disjuncts
          (joinTo .and outer.conjuncts (joinTo .or disjuncts conjuncts)) rest
    else none
termination_by input.length
decreasing_by all_goals exact Nat.lt_succ_self _

end

def read? (lexemes : List Lexeme) : Option Formula :=
  readOperand? [] none none lexemes

end Formula

/-! ## Every test is found -/

theorem Comparison.ofSymbol?_symbol (comparison : Comparison) :
    Comparison.ofSymbol? comparison.symbol = some comparison := by
  cases comparison <;> decide

namespace Lexeme

variable {α : Type}

theorem run_take {accept : Lexeme → Option α} {lexeme : Lexeme} {result : α}
    (accepted : accept lexeme = some result) (rest : List Lexeme) :
    (take accept).run (lexeme :: rest) = .ok (result, rest) := by
  rw [take, Reader.run_symbol_cons, accepted]
  rfl

theorem run_takeOnly (lexeme : Lexeme) (rest : List Lexeme) :
    (takeOnly lexeme).run (lexeme :: rest) = .ok ((), rest) :=
  run_take (if_pos rfl) rest

theorem run_takeName (content : String) (rest : List Lexeme) :
    takeName.run (.name content :: rest) = .ok (content, rest) := rfl

theorem run_takeValue (content : Value) (rest : List Lexeme) :
    takeValue.run (.value content :: rest) = .ok (content, rest) := rfl

theorem run_takeComparison (comparison : Comparison) (rest : List Lexeme) :
    takeComparison.run (.sign comparison.symbol :: rest) = .ok (comparison, rest) :=
  run_take comparison.ofSymbol?_symbol rest

end Lexeme

theorem Field.run_reader (field : Field) (rest : List Lexeme) :
    Field.reader.run (field.lexemes ++ rest) = .ok (field, rest) := by
  simp only [Field.reader, Field.lexemes, List.cons_append, List.nil_append, Reader.run_andThen]
  rw [Reader.run_bind_of_ok (run_takeName _ _), Reader.run_bind_of_ok (run_takeOnly _ _),
    Reader.run_bind_of_ok (run_takeName _ _)]
  rfl

theorem FieldTest.run_reader (test : FieldTest) (rest : List Lexeme) :
    FieldTest.reader.run (test.lexemes ++ rest) = .ok (test, rest) := by
  simp only [FieldTest.reader, FieldTest.lexemes, List.append_assoc, Reader.run_andThen]
  rw [Reader.run_bind_of_ok (Field.run_reader _ _)]
  simp only [List.cons_append, List.nil_append]
  rw [Reader.run_bind_of_ok (run_takeComparison _ _), Reader.run_bind_of_ok (run_takeValue _ _)]
  rfl

namespace Atom

theorem run_tests (first : FieldTest) (others : List FieldTest) (rest : List Lexeme) :
    Reader.Separated FieldTest.reader anotherTest.toReader
      (first.lexemes ++ (others.flatMap (fun test => .word "AND" :: test.lexemes) ++
        .closing :: rest)) (first :: others) rest := by
  induction others generalizing first with
  | nil =>
      exact .last (FieldTest.run_reader first _) (run_take (by decide) rest)
  | cons second others inductionHypothesis =>
      simp only [List.flatMap_cons, List.cons_append, List.append_assoc]
      exact .more (FieldTest.run_reader first _) (run_take (by decide) _)
        (inductionHypothesis second)

theorem run_membershipReader (field : Field) (negated : Bool) (selected : Field) (source : String)
    (first : FieldTest) (others : List FieldTest) (rest : List Lexeme) :
    (membershipReader field negated).run
        (.opening :: .word "SELECT" :: (selected.lexemes ++ .word "FROM" :: .name source ::
          .word "WHERE" :: (first.lexemes ++
            (others.flatMap (fun test => .word "AND" :: test.lexemes) ++ .closing :: rest)))) =
      .ok (.member field negated selected source first others, rest) := by
  have tests := Reader.separatedRun_eq_ok_iff.mpr (run_tests first others rest)
  rw [membershipReader, Reader.run_bind_of_ok (run_takeOnly _ _),
    Reader.run_bind_of_ok (run_takeOnly _ _), Reader.run_bind_of_ok (Field.run_reader _ _),
    Reader.run_bind_of_ok (run_takeOnly _ _), Reader.run_bind_of_ok (run_takeName _ _),
    Reader.run_bind_of_ok (run_takeOnly _ _), Reader.run_bind_of_ok tests]
  rfl

/-- A test is found at the front of the lexemes, whatever follows it. -/
theorem run_reader (atom : Atom) (rest : List Lexeme) :
    reader.run (atom.lexemes ++ rest) = .ok (atom, rest) := by
  cases atom with
  | compare test =>
      simp only [reader, Atom.lexemes, FieldTest.lexemes, List.append_assoc, Reader.run_andThen]
      rw [Reader.run_bind_of_ok (Field.run_reader _ _), Reader.run_bind_of_ok (Reader.run_peek _)]
      simp only [List.cons_append, List.nil_append, List.head?_cons, Option.some.injEq,
        reduceCtorEq, if_false]
      rw [Reader.run_bind_of_ok (run_takeComparison _ _),
        Reader.run_bind_of_ok (run_takeValue _ _)]
      rfl
  | member field negated selected source first others =>
      simp only [reader, Atom.lexemes, List.append_assoc, Reader.run_andThen]
      rw [Reader.run_bind_of_ok (Field.run_reader _ _), Reader.run_bind_of_ok (Reader.run_peek _)]
      cases negated with
      | false =>
          simp only [Bool.false_eq_true, if_false, List.cons_append, List.nil_append,
            List.head?_cons, if_true]
          rw [Reader.run_bind_of_ok (run_takeOnly _ _)]
          exact run_membershipReader field false selected source first others rest
      | true =>
          simp only [if_true, List.cons_append, List.nil_append, List.head?_cons,
            Option.some.injEq, Lexeme.word.injEq, String.reduceEq, if_false]
          rw [Reader.run_bind_of_ok (run_takeOnly _ _), Reader.run_bind_of_ok (run_takeOnly _ _)]
          exact run_membershipReader field true selected source first others rest

end Atom

/-! ## The grammar is unambiguous -/

namespace Formula

/-- What reading does where the lexemes of a formula stand, by the level of the
formula: an operand is joined to the conjuncts before it, a conjunction takes their
place, and a disjunction leaves both parts of a formula. -/
def Found (lexemes : List Lexeme) (formula : Formula) : Level → Prop
  | .operand => ∀ stack disjuncts conjuncts rest,
      readOperand? stack disjuncts conjuncts (lexemes ++ rest) =
        readConnective? stack disjuncts (joinTo .and conjuncts formula) rest
  | .conjunction => ∀ stack disjuncts rest,
      readOperand? stack disjuncts none (lexemes ++ rest) =
        readConnective? stack disjuncts formula rest
  | .disjunction => ∀ stack rest, ∃ disjuncts conjuncts,
      joinTo .or disjuncts conjuncts = formula ∧
        readOperand? stack none none (lexemes ++ rest) =
          readConnective? stack disjuncts conjuncts rest

theorem readConnective?_and (stack : List Outer) (disjuncts : Option Formula)
    (conjuncts : Formula) (rest : List Lexeme) :
    readConnective? stack disjuncts conjuncts (.word "AND" :: rest) =
      readOperand? stack disjuncts (some conjuncts) rest := by
  rw [readConnective?.eq_def]
  exact if_pos rfl

theorem readConnective?_or (stack : List Outer) (disjuncts : Option Formula)
    (conjuncts : Formula) (rest : List Lexeme) :
    readConnective? stack disjuncts conjuncts (.word "OR" :: rest) =
      readOperand? stack (some (joinTo .or disjuncts conjuncts)) none rest := by
  rw [readConnective?.eq_def]
  simp only [Lexeme.word.injEq, String.reduceEq, if_false, if_true]

theorem readConnective?_closing (stack : List Outer) (outer : Outer) (disjuncts : Option Formula)
    (conjuncts : Formula) (rest : List Lexeme) :
    readConnective? (outer :: stack) disjuncts conjuncts (.closing :: rest) =
      readConnective? stack outer.disjuncts
        (joinTo .and outer.conjuncts (joinTo .or disjuncts conjuncts)) rest := by
  rw [readConnective?.eq_def]
  simp only [Lexeme.closing, reduceCtorEq, if_false, if_true]

theorem readOperand?_atom (atom : Atom) : Found atom.lexemes (.atom atom) .operand := by
  intro stack disjuncts conjuncts rest
  have found := atom.run_reader rest
  have begins : ∃ content others, atom.lexemes ++ rest = .name content :: others := by
    cases atom with
    | compare test => exact ⟨_, _, rfl⟩
    | member field negated selected source first others =>
        simp only [Atom.lexemes, List.append_assoc]
        exact ⟨_, _, rfl⟩
  obtain ⟨content, others, split⟩ := begins
  rw [split] at found ⊢
  rw [readOperand?, if_neg (by simp [Lexeme.opening])]
  split
  · rename_i failure
    cases found.symm.trans failure
  · rename_i success
    cases found.symm.trans success
    rfl

/-- The reader finds every formula of the grammar. -/
theorem found_of_reads {level : Level} {lexemes : List Lexeme} {formula : Formula}
    (read : Reads level lexemes formula) : Found lexemes formula level := by
  induction read with
  | atom atom => exact readOperand?_atom atom
  | @enclosed inside formula read inductionHypothesis =>
      intro stack disjuncts conjuncts rest
      obtain ⟨innerDisjuncts, innerConjuncts, joined, reads⟩ :=
        inductionHypothesis (⟨disjuncts, conjuncts⟩ :: stack) (.closing :: rest)
      simp only [List.cons_append, List.append_assoc, List.nil_append]
      rw [readOperand?, if_pos rfl, reads, readConnective?_closing, joined]
  | operand read inductionHypothesis =>
      intro stack disjuncts rest
      exact inductionHypothesis stack disjuncts none rest
  | @and left right first second leftRead rightRead leftHypothesis rightHypothesis =>
      intro stack disjuncts rest
      rw [List.append_assoc, leftHypothesis, List.cons_append, readConnective?_and,
        rightHypothesis]
      rfl
  | conjunction read inductionHypothesis =>
      intro stack rest
      exact ⟨none, _, rfl, inductionHypothesis stack none rest⟩
  | @or left right first second leftRead rightRead leftHypothesis rightHypothesis =>
      intro stack rest
      obtain ⟨disjuncts, conjuncts, joined, reads⟩ :=
        leftHypothesis stack ((.word "OR" :: right) ++ rest)
      refine ⟨some first, second, rfl, ?_⟩
      rw [List.append_assoc, reads, List.cons_append, readConnective?_or, joined, rightHypothesis]

theorem read?_of_reads {lexemes : List Lexeme} {formula : Formula}
    (read : Reads .disjunction lexemes formula) : read? lexemes = some formula := by
  obtain ⟨disjuncts, conjuncts, joined, reads⟩ := found_of_reads read [] []
  rw [List.append_nil] at reads
  rw [read?, reads, readConnective?, joined]

end Formula

/-- No lexemes can be read as two different formulas. -/
theorem Reads.unique {lexemes : List Lexeme} {first second : Formula}
    (firstRead : Reads .disjunction lexemes first)
    (secondRead : Reads .disjunction lexemes second) : first = second :=
  Option.some.inj
    ((Formula.read?_of_reads firstRead).symm.trans (Formula.read?_of_reads secondRead))

end Sql
end TestQuery
