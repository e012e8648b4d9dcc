import TestQuery.Proofs.Plan.Settings

namespace TestQuery

/-!
# One statement in three dialects

Dialects differ in three ways only: in the quotes around names, in the marks of
parameters, and in how a UUID is handed over.  What stands between names and marks is
split alike in all of them.  So once names are out of their quotes and every mark is
known by the position that it stands for, the texts of a plan are the same lexeme by
lexeme, and so are its values but for the UUIDs.
-/

namespace Sql

/-! ## Plain text in every dialect -/

namespace Lexeme

theorem Pending.extend?_of_fixed (first second : Dialect) {pending : Pending}
    (fixed : pending.isFixed = true) (c : Char) :
    pending.extend? first c = pending.extend? second c := by
  cases pending with
  | quoted content => cases fixed
  | quote content => cases fixed
  | _ => rfl

theorem Pending.start_of_plain (first second : Dialect) {c : Char} (plain : isPlain c = true) :
    start first c = start second c := by
  have begins (dialect : Dialect) : start dialect c =
      if isOperator c then .operator [c]
      else if isBlank c then .nothing
      else if isWordChar c then .word [c]
      else .sign c := by
    rw [start, if_neg (plain_ne plain (quote_not_plain dialect)),
      if_neg (plain_ne plain (mark_not_plain dialect))]
  rw [begins first, begins second]

/-- No dialect splits fixed text in a way of its own. -/
theorem advance_of_plain (first second : Dialect) {pending : Pending} {text : List Char}
    (fixed : pending.isFixed = true) (plain : ∀ c ∈ text, isPlain c = true) :
    advance first pending text = advance second pending text := by
  induction text generalizing pending with
  | nil => rfl
  | cons c rest inductionHypothesis =>
      have restPlain : ∀ d ∈ rest, isPlain d = true :=
        fun d member => plain d (List.mem_cons_of_mem c member)
      have extends? := Pending.extend?_of_fixed first second fixed c
      cases next : pending.extend? second c with
      | some longer =>
          rw [advance_cons_of_extend next, advance_cons_of_extend (extends?.trans next)]
          exact inductionHypothesis (Pending.extend_fixed fixed next) restPlain
      | none =>
          have begins := Pending.start_fixed second (plain c List.mem_cons_self)
          rw [advance_cons_of_stop next, advance_cons_of_stop (extends?.trans next),
            Pending.start_of_plain first second (plain c List.mem_cons_self),
            inductionHypothesis begins restPlain]

theorem scan_of_plain (first second : Dialect) {text : List Char}
    (plain : ∀ c ∈ text, isPlain c = true) : scan first text = scan second text := by
  rw [scan, scan, advance_of_plain first second rfl plain]

/-! ## Positions in place of marks -/

/-- The position of the value that a mark stands for, counted from one.  A mark without a
number stands for the value after those of the `order` marks before it. -/
def position (dialect : Dialect) (order : Nat) (mark : String) : Nat :=
  match dialect with
  | .postgres => Text.decimalValue (mark.toList.drop 1)
  | .mysql | .sqlite => order + 1

/-- The lexemes with a position in place of each mark, after `order` other marks. -/
def positioned (dialect : Dialect) : (order : Nat) → List Lexeme → List (Nat ⊕ Lexeme)
  | _, [] => []
  | order, lexeme :: rest =>
    match lexeme.mark? with
    | none => .inr lexeme :: positioned dialect order rest
    | some mark => .inl (position dialect order mark) :: positioned dialect (order + 1) rest

theorem position_placeholder (dialect : Dialect) (order : Nat) :
    position dialect order (String.ofList (dialect.placeholder (order + 1))) = order + 1 := by
  cases dialect with
  | postgres => simp [position, Dialect.placeholder, Text.decimalValue_toDigits]
  | mysql => rfl
  | sqlite => rfl

theorem positioned_fixed_append (dialect : Dialect) (order : Nat) {fixedPart : List Lexeme}
    (fixed : ∀ lexeme ∈ fixedPart, lexeme.isFixed = true) (rest : List Lexeme) :
    positioned dialect order (fixedPart ++ rest) =
      fixedPart.map .inr ++ positioned dialect order rest := by
  induction fixedPart with
  | nil => rfl
  | cons lexeme others inductionHypothesis =>
      have unmarked := mark?_of_fixed (fixed lexeme List.mem_cons_self)
      have othersFixed : ∀ other ∈ others, other.isFixed = true :=
        fun other member => fixed other (List.mem_cons_of_mem lexeme member)
      rw [List.cons_append, positioned, unmarked]
      simp only [inductionHypothesis othersFixed, List.map_cons, List.cons_append]

end Lexeme

/-- Fragments have the same lexemes in every dialect, up to how positions are marked. -/
theorem Fragment.positioned_lexemesFrom {fragments : List Fragment}
    (plain : ∀ content, .text content ∈ fragments → ∀ c ∈ content.toList, Lexeme.isPlain c = true)
    (first second : Dialect) (tables : TableNames) (order : Nat) :
    Lexeme.positioned first order (lexemesFrom first tables (order + 1) fragments) =
      Lexeme.positioned second order (lexemesFrom second tables (order + 1) fragments) := by
  induction fragments generalizing order with
  | nil => rfl
  | cons fragment rest inductionHypothesis =>
      have following := fun next => inductionHypothesis
        (fun content member => plain content (List.mem_cons_of_mem fragment member)) next
      cases fragment with
      | text content =>
          have isPlain := plain content List.mem_cons_self
          have fixed := Lexeme.scan_plain second isPlain
          rw [lexemesFrom, lexemesFrom, Lexeme.scan_of_plain first second isPlain,
            Lexeme.positioned_fixed_append first order fixed,
            Lexeme.positioned_fixed_append second order fixed, following order]
      | name known =>
          exact congrArg (Sum.inr (Lexeme.name (known.resolve tables)) :: ·) (following order)
      | bind parameter =>
          have marked (dialect : Dialect) :
              Lexeme.positioned dialect order
                  (lexemesFrom dialect tables (order + 1) (.bind parameter :: rest)) =
                .inl (order + 1) ::
                  Lexeme.positioned dialect (order + 1)
                    (lexemesFrom dialect tables (order + 1 + 1) rest) :=
            congrArg (Sum.inl · :: Lexeme.positioned dialect (order + 1) _)
              (Lexeme.position_placeholder dialect order)
          rw [marked first, marked second, following (order + 1)]

/-! ## Values -/

/-- What the dialect hands over in place of a value for `postgres`: for a UUID its sixteen
bytes, unless UUIDs are values of their own. -/
def Dialect.stored (dialect : Dialect) : Value → Value
  | .uuid (some id) => dialect.uuidValue id
  | other => other

theorem Dialect.bind_eq_stored (dialect : Dialect) (parameter : Parameter) :
    dialect.bind parameter = dialect.stored (Dialect.postgres.bind parameter) := by
  cases parameter with
  | id known => exact dialect.bind_id known
  | _ => rfl

end Sql

namespace Plan

open Sql
open Query (Purpose)

/-! ## Plans -/

/-- The plan says in its dialect what the other plan says for `postgres`. -/
structure Translates (dialect : Dialect) (plan usual : Plan) : Prop where
  kind : plan.kind = usual.kind
  groupColumns : plan.groupColumns = usual.groupColumns
  page : plan.page = usual.page
  /-- Each text is split by the rules of its own dialect. -/
  text : Lexeme.positioned dialect 0 (Lexeme.scan dialect plan.sql.toList) =
    Lexeme.positioned .postgres 0 (Lexeme.scan .postgres usual.sql.toList)
  valueCount : plan.values.length = usual.values.length
  values : plan.values = usual.values.map dialect.stored

/-- Both are planned, and one plan translates the other, or both are refused for the same
reason. -/
inductive SameOutcome (dialect : Dialect) :
    Except Query.Error Plan → Except Query.Error Plan → Prop where
  | planned {plan usual : Plan} (translates : Translates dialect plan usual) :
      SameOutcome dialect (.ok plan) (.ok usual)
  | refused (error : Query.Error) : SameOutcome dialect (.error error) (.error error)

/-- A plan is translated by writing it for another database. -/
theorem translates_withSettings (dialect : Dialect) (tables : TableNames) (plan : Plan) :
    Translates dialect (plan.withSettings ⟨dialect, tables⟩)
      (plan.withSettings ⟨.postgres, tables⟩) := by
  have values : (plan.withSettings ⟨dialect, tables⟩).values =
      (plan.withSettings ⟨.postgres, tables⟩).values.map dialect.stored := by
    rw [Plan.values, Plan.values, List.map_map]
    exact List.map_congr_left fun parameter _ => dialect.bind_eq_stored parameter
  refine ⟨rfl, rfl, rfl, ?_, ?_, values⟩
  · have scanned := scan_sql (plan.withSettings ⟨dialect, tables⟩)
    have usualScanned := scan_sql (plan.withSettings ⟨.postgres, tables⟩)
    refine (congrArg _ scanned).trans (Eq.trans ?_ (congrArg _ usualScanned).symm)
    exact Fragment.positioned_lexemesFrom plan.statement.spaced.plain dialect .postgres tables 0
  · rw [values, List.length_map]

/-- All dialects are planned for alike.  A query is planned for one of them if it is planned
for another, and refused for the same reason otherwise.  The plans, and those of the lookups,
differ in nothing but quotes, marks and the form of UUIDs. -/
theorem dialects_agree (dialect : Dialect) (tables : TableNames) (owner : Uuid) :
    (∀ (query : Query) (purpose : Purpose),
      SameOutcome dialect (ofQuery ⟨dialect, tables⟩ owner query purpose)
        (ofQuery ⟨.postgres, tables⟩ owner query purpose)) ∧
    ∀ id : Uuid,
      Translates dialect (testcaseLookup ⟨dialect, tables⟩ owner id)
        (testcaseLookup ⟨.postgres, tables⟩ owner id) ∧
      Translates dialect (sessionLookup ⟨dialect, tables⟩ owner id)
        (sessionLookup ⟨.postgres, tables⟩ owner id) ∧
      Translates dialect (labelLookup ⟨dialect, tables⟩ owner id)
        (labelLookup ⟨.postgres, tables⟩ owner id) := by
  constructor
  · intro query purpose
    rw [ofQuery_withSettings ⟨dialect, tables⟩ ⟨.postgres, tables⟩]
    cases planned : ofQuery ⟨.postgres, tables⟩ owner query purpose with
    | error error => exact .refused error
    | ok plan =>
        rcases assembled_of_ok planned with ⟨page, pins, -, -, -, rfl⟩
        exact .planned (translates_withSettings dialect tables _)
  · intro id
    exact ⟨translates_withSettings dialect tables (testcaseLookup ⟨.postgres, tables⟩ owner id),
      translates_withSettings dialect tables (sessionLookup ⟨.postgres, tables⟩ owner id),
      translates_withSettings dialect tables (labelLookup ⟨.postgres, tables⟩ owner id)⟩

end Plan
end TestQuery
