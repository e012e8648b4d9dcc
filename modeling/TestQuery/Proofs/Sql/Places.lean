import TestQuery.Proofs.Sql.Spacing
import TestQuery.Proofs.Text

namespace TestQuery
namespace Sql

/-!
# Places and the values in them

A mark with a number stands for the value with that number; marks without one
stand for the values in the order in which the marks occur.  A database puts the
values in their places when it runs a statement: `Lexeme.fill` does the same to
the lexemes of a text.  The parameters of a statement then stand exactly where its
fragments have them.
-/

/-- A UUID as the database takes it. -/
def Dialect.uuidValue (id : Uuid) : Dialect → Value
  | .postgres => .uuid (some id)
  | .mysql | .sqlite => .bytes (some id.bytes)

theorem Dialect.bind_id (dialect : Dialect) (id : Uuid) :
    dialect.bind (.id id) = dialect.uuidValue id := by
  cases dialect <;> rfl

namespace Lexeme

/-- The mark, if the lexeme is the place of a parameter. -/
def mark? : Lexeme → Option String
  | .place mark => some mark
  | _ => none

/-- The marks of parameters, in the order in which they occur. -/
def marks (lexemes : List Lexeme) : List String :=
  lexemes.filterMap mark?

/-- The value that belongs in a place; `order` places come before it. -/
def valueAt? (dialect : Dialect) (values : List Value) (order : Nat) (mark : String) :
    Option Value :=
  match dialect with
  | .postgres =>
    match Text.decimalValue (mark.toList.drop 1) with
    | 0 => none
    | number + 1 => values[number]?
  | _ => values[order]?

/-- The lexemes with a value in each place, if there is one for each. -/
def fill (dialect : Dialect) (values : List Value) : (order : Nat) → List Lexeme →
    Option (List Lexeme)
  | _, [] => some []
  | order, lexeme :: rest =>
    match lexeme.mark? with
    | none => (fill dialect values order rest).map (lexeme :: ·)
    | some mark =>
      match valueAt? dialect values order mark, fill dialect values (order + 1) rest with
      | some content, some others => some (.value content :: others)
      | _, _ => none

theorem mark?_of_fixed {lexeme : Lexeme} (fixed : lexeme.isFixed = true) :
    lexeme.mark? = none := by
  cases lexeme with
  | place mark => cases fixed
  | _ => rfl

theorem marks_of_fixed {lexemes : List Lexeme} (fixed : ∀ lexeme ∈ lexemes, lexeme.isFixed = true) :
    marks lexemes = [] :=
  List.filterMap_eq_nil_iff.mpr (fun lexeme member => mark?_of_fixed (fixed lexeme member))

theorem fill_fixed_append (dialect : Dialect) (values : List Value) (order : Nat)
    {fixedPart : List Lexeme} (fixed : ∀ lexeme ∈ fixedPart, lexeme.isFixed = true)
    (rest : List Lexeme) :
    fill dialect values order (fixedPart ++ rest) =
      (fill dialect values order rest).map (fixedPart ++ ·) := by
  induction fixedPart with
  | nil => simp
  | cons lexeme others inductionHypothesis =>
      have unmarked := mark?_of_fixed (fixed lexeme List.mem_cons_self)
      have othersFixed : ∀ other ∈ others, other.isFixed = true :=
        fun other member => fixed other (List.mem_cons_of_mem lexeme member)
      rw [List.cons_append, fill, unmarked]
      simp only [inductionHypothesis othersFixed, Option.map_map]
      rfl

theorem scan_plain (dialect : Dialect) {text : List Char}
    (plain : ∀ c ∈ text, isPlain c = true) :
    ∀ lexeme ∈ scan dialect text, lexeme.isFixed = true := by
  have reached := advance_plain dialect (show Pending.nothing.isFixed = true from rfl) plain
  intro lexeme member
  rcases List.mem_append.mp member with complete | pending
  · exact reached.1 lexeme complete
  · exact Pending.finish_fixed reached.2 lexeme pending

/-- Marks lead to the values in order, whether or not they are numbered. -/
theorem valueAt?_placeholder (dialect : Dialect) (values : List Value) (order : Nat) :
    valueAt? dialect values order (String.ofList (dialect.placeholder (order + 1))) =
      values[order]? := by
  cases dialect with
  | postgres => simp [valueAt?, Dialect.placeholder, Text.decimalValue_toDigits]
  | mysql => rfl
  | sqlite => rfl

end Lexeme

namespace Fragment

open Lexeme (scan marks fill isPlain)

/-- The lexemes of a fragment, with the value of a parameter in its place. -/
def filled (dialect : Dialect) (tables : TableNames) : Fragment → List Lexeme
  | .text content => scan dialect content.toList
  | .name known => [.name (known.resolve tables)]
  | .bind parameter => [.value (dialect.bind parameter)]

/-- The lexemes of fragments, with the values of their parameters in place. -/
def written (dialect : Dialect) (tables : TableNames) (fragments : List Fragment) : List Lexeme :=
  fragments.flatMap (filled dialect tables)

theorem written_append (dialect : Dialect) (tables : TableNames) (left right : List Fragment) :
    written dialect tables (left ++ right) =
      written dialect tables left ++ written dialect tables right :=
  List.flatMap_append

theorem written_cons (dialect : Dialect) (tables : TableNames) (fragment : Fragment)
    (rest : List Fragment) :
    written dialect tables (fragment :: rest) =
      fragment.filled dialect tables ++ written dialect tables rest :=
  List.flatMap_cons

variable {fragments : List Fragment}
  (plain : ∀ content, .text content ∈ fragments → ∀ c ∈ content.toList, isPlain c = true)

include plain

/-- The marks are numbered one after another, one for each parameter. -/
theorem marks_lexemesFrom (dialect : Dialect) (tables : TableNames) (number : Nat) :
    marks (lexemesFrom dialect tables number fragments) =
      (List.range' number (parameters fragments).length).map
        fun place => String.ofList (dialect.placeholder place) := by
  induction fragments generalizing number with
  | nil => rfl
  | cons fragment rest inductionHypothesis =>
      have following := fun next => inductionHypothesis
        (fun content member => plain content (List.mem_cons_of_mem fragment member)) next
      cases fragment with
      | text content =>
          have fixed := Lexeme.scan_plain dialect (plain content List.mem_cons_self)
          have append : marks (lexemesFrom dialect tables number (.text content :: rest)) =
              marks (scan dialect content.toList) ++
                marks (lexemesFrom dialect tables number rest) :=
            List.filterMap_append
          rw [append, Lexeme.marks_of_fixed fixed, List.nil_append, following number]
          rfl
      | name known => exact following number
      | bind parameter =>
          have length : (parameters (.bind parameter :: rest)).length =
              (parameters rest).length + 1 := rfl
          rw [length, List.range'_succ, List.map_cons, ← following (number + 1)]
          rfl

/-- The values of the parameters fill the places. -/
theorem fill_lexemesFrom (dialect : Dialect) (tables : TableNames) (before : List Value) :
    fill dialect (before ++ (parameters fragments).map dialect.bind) before.length
        (lexemesFrom dialect tables (before.length + 1) fragments) =
      some (written dialect tables fragments) := by
  induction fragments generalizing before with
  | nil => rfl
  | cons fragment rest inductionHypothesis =>
      have following := fun longer => inductionHypothesis
        (fun content member => plain content (List.mem_cons_of_mem fragment member)) longer
      cases fragment with
      | text content =>
          have fixed := Lexeme.scan_plain dialect (plain content List.mem_cons_self)
          rw [lexemesFrom, Lexeme.fill_fixed_append dialect _ _ fixed]
          exact congrArg (Option.map (scan dialect content.toList ++ ·)) (following before)
      | name known =>
          exact congrArg (Option.map (Lexeme.name (known.resolve tables) :: ·)) (following before)
      | bind parameter =>
          have values : before ++ (parameters (.bind parameter :: rest)).map dialect.bind =
              (before ++ [dialect.bind parameter]) ++ (parameters rest).map dialect.bind := by
            rw [List.append_assoc]
            rfl
          have later := following (before ++ [dialect.bind parameter])
          rw [List.length_append, List.length_singleton] at later
          have here : (before ++ [dialect.bind parameter] ++
              (parameters rest).map dialect.bind)[before.length]? =
                some (dialect.bind parameter) := by
            simp
          rw [values, lexemesFrom, fill]
          simp only [Lexeme.mark?, Lexeme.valueAt?_placeholder, here, later]
          rfl

end Fragment
end Sql
end TestQuery
