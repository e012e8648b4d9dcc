import TestQuery.Proofs.Plan.Planned
import TestQuery.Proofs.Sql.Places

namespace TestQuery

/-!
# What the settings decide

Planning does not look at the settings: whether a query is planned, and as which
statement, is the same for all of them.  They come in when the statement is written.

The names of the tables come in as quoted names only.  Whatever they hold, quotes, marks
of parameters, blanks or comments, each of them is read back as one name, and all else is
read as it is with the usual names.
-/

namespace Sql

/-! ## Names in place of the usual ones -/

/-- The name of a table in place of its usual one; any other name is kept. -/
def TableNames.rename (tables : TableNames) (name : String) : String :=
  if name = "sessions" then tables.sessions
  else if name = "testcases" then tables.testcases
  else if name = "labels" then tables.labels
  else name

/-- The lexeme with the names of tables in place of the usual ones. -/
def Lexeme.renamed (tables : TableNames) : Lexeme → Lexeme
  | .name content => .name (tables.rename content)
  | other => other

theorem TableNames.rename_eq_self {tables : TableNames} {name : String}
    (noSessions : name ≠ "sessions") (noTestcases : name ≠ "testcases")
    (noLabels : name ≠ "labels") : tables.rename name = name := by
  rw [rename, if_neg noSessions, if_neg noTestcases, if_neg noLabels]

/-- The name of joined labels is no name of a table: after its first letter come digits. -/
theorem rename_label (tables : TableNames) (number : Nat) :
    tables.rename s!"l{number}" = s!"l{number}" := by
  have characters : s!"l{number}".toList = 'l' :: Nat.toDigits 10 number := by
    rw [String.toList_append]
    exact congrArg ('l' :: ·) String.toList_ofList
  apply TableNames.rename_eq_self
  · intro same
    rw [same] at characters
    cases characters
  · intro same
    rw [same] at characters
    cases characters
  · intro same
    rw [same] at characters
    have letter : 'a' ∈ Nat.toDigits 10 number := by
      rw [← (List.cons.inj characters).2]
      exact List.mem_cons_self
    have digit : 'a'.isDigit = true := Nat.isDigit_of_mem_toDigits (by decide) (by decide) letter
    cases digit

theorem rename_group (tables : TableNames) (position : Nat) :
    tables.rename s!"group_{position}" = s!"group_{position}" := by
  have first : s!"group_{position}".toList.head? = some 'g' := by
    rw [String.toList_append]
    rfl
  apply TableNames.rename_eq_self <;>
  · intro same
    rw [same] at first
    cases first

/-- No name in a statement but those of the tables is the usual name of a table. -/
theorem Name.resolve_eq_rename (tables : TableNames) (known : Name) :
    known.resolve tables = tables.rename (known.resolve {}) := by
  cases known with
  | relation relation =>
      cases relation with
      | table table => cases table <;> rfl
      | label number => exact (rename_label tables number).symm
      | page => rfl
  | column column =>
      cases column with
      | group position => exact (rename_group tables position).symm
      | _ => rfl

/-! ## Statements with other names -/

theorem Lexeme.renamed_of_fixed (tables : TableNames) {lexeme : Lexeme}
    (fixed : lexeme.isFixed = true) : lexeme.renamed tables = lexeme := by
  cases lexeme with
  | name content => cases fixed
  | _ => rfl

theorem Fragment.lexemesFrom_renamed {fragments : List Fragment}
    (plain : ∀ content, .text content ∈ fragments → ∀ c ∈ content.toList, Lexeme.isPlain c = true)
    (dialect : Dialect) (tables : TableNames) (number : Nat) :
    lexemesFrom dialect tables number fragments =
      (lexemesFrom dialect {} number fragments).map (Lexeme.renamed tables) := by
  induction fragments generalizing number with
  | nil => rfl
  | cons fragment rest inductionHypothesis =>
      have following := fun next => inductionHypothesis
        (fun content member => plain content (List.mem_cons_of_mem fragment member)) next
      cases fragment with
      | text content =>
          have fixed := Lexeme.scan_plain dialect (plain content List.mem_cons_self)
          have kept : (Lexeme.scan dialect content.toList).map (Lexeme.renamed tables) =
              Lexeme.scan dialect content.toList :=
            (List.map_congr_left fun lexeme member =>
              Lexeme.renamed_of_fixed tables (fixed lexeme member)).trans (List.map_id _)
          rw [lexemesFrom, lexemesFrom, List.map_append, kept, following number]
      | name known =>
          rw [lexemesFrom, lexemesFrom, List.map_cons, following number,
            known.resolve_eq_rename tables]
          rfl
      | bind parameter =>
          rw [lexemesFrom, lexemesFrom, List.map_cons, following (number + 1)]
          rfl

end Sql

namespace Plan

open Sql
open Query (Purpose)

/-! ## Plans for other settings -/

/-- The same plan, to be written for other settings. -/
def withSettings (settings : Settings) (plan : Plan) : Plan :=
  { plan with settings := settings }

/-- A query is planned, or refused, in the same way for all settings. -/
theorem ofQuery_withSettings (settings other : Settings) (owner : Uuid) (query : Query)
    (purpose : Purpose) :
    ofQuery settings owner query purpose =
      (ofQuery other owner query purpose).map (withSettings settings) := by
  cases purpose with
  | testcases =>
      simp only [ofQuery, testcases]
      cases pageOf query with
      | error error => rfl
      | ok page =>
          cases filter (Table.testcases.col .sessionId) query with
          | error error => rfl
          | ok chain => cases listPins (Table.testcases.col .sessionId) query <;> rfl
  | sessions =>
      simp only [ofQuery, sessions]
      cases pageOf query with
      | error error => rfl
      | ok page =>
          cases filter (Table.sessions.col .id) query with
          | error error => rfl
          | ok chain => cases listPins (Table.sessions.col .id) query <;> rfl
  | groups =>
      simp only [ofQuery, groups]
      cases pageOf query with
      | error error => rfl
      | ok page =>
          cases enumerationKeys query with
          | error error => rfl
          | ok keys =>
              simp only [bind, Except.bind]
              cases enumerationPins keys query with
              | error error => rfl
              | ok pins => cases filter (Table.testcases.col .sessionId) query <;> rfl

/-- The text of the plan, split the way its database splits it. -/
def lexemes (plan : Plan) : List Lexeme :=
  Lexeme.scan plan.settings.dialect plan.sql.toList

/-- Other names of the tables show as names only, each in the place of the usual one. -/
theorem lexemes_withSettings (dialect : Dialect) (tables : TableNames) (plan : Plan) :
    (plan.withSettings ⟨dialect, tables⟩).lexemes =
      (plan.withSettings ⟨dialect, {}⟩).lexemes.map (Lexeme.renamed tables) := by
  have split := Fragment.lexemesFrom_renamed plan.statement.spaced.plain dialect tables 1
  rw [lexemes, lexemes, scan_sql, scan_sql]
  exact split

/-- Names of tables do not break out of their quotes, whatever characters they hold.  With
any names, a query is planned as it is with the usual ones, or refused for the same reason,
and the text of the plan, like that of a lookup, is split into the same lexemes but for the
names of the tables. -/
theorem table_names_stay_quoted (dialect : Dialect) (tables : TableNames) (owner : Uuid) :
    (∀ (query : Query) (purpose : Purpose),
      (ofQuery ⟨dialect, tables⟩ owner query purpose).map lexemes =
        (ofQuery ⟨dialect, {}⟩ owner query purpose).map fun plan =>
          plan.lexemes.map (Lexeme.renamed tables)) ∧
    ∀ id : Uuid,
      (testcaseLookup ⟨dialect, tables⟩ owner id).lexemes =
        (testcaseLookup ⟨dialect, {}⟩ owner id).lexemes.map (Lexeme.renamed tables) ∧
      (sessionLookup ⟨dialect, tables⟩ owner id).lexemes =
        (sessionLookup ⟨dialect, {}⟩ owner id).lexemes.map (Lexeme.renamed tables) ∧
      (labelLookup ⟨dialect, tables⟩ owner id).lexemes =
        (labelLookup ⟨dialect, {}⟩ owner id).lexemes.map (Lexeme.renamed tables) := by
  constructor
  · intro query purpose
    rw [ofQuery_withSettings ⟨dialect, tables⟩ ⟨dialect, {}⟩]
    cases planned : ofQuery ⟨dialect, {}⟩ owner query purpose with
    | error error => rfl
    | ok plan =>
        rcases assembled_of_ok planned with ⟨page, pins, -, -, -, rfl⟩
        exact congrArg Except.ok (lexemes_withSettings dialect tables _)
  · intro id
    exact ⟨lexemes_withSettings dialect tables (testcaseLookup ⟨dialect, {}⟩ owner id),
      lexemes_withSettings dialect tables (sessionLookup ⟨dialect, {}⟩ owner id),
      lexemes_withSettings dialect tables (labelLookup ⟨dialect, {}⟩ owner id)⟩

end Plan
end TestQuery
