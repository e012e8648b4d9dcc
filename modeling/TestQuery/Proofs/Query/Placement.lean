import TestQuery.Proofs.Reader
import TestQuery.Query.Reading

namespace TestQuery
namespace Query

open Text

/-!
# Where tokens stand

Reading looks at the kinds of tokens.  Their places are only carried along, to be shown
in an error.  So when all tokens are moved to other places, the same query is read, or the
same fault is found, at the place to which its token was moved.

The readers are compared run by run.  A reader may hold a token or a place that was read
before it; then it is compared with the reader that holds the moved one.
-/

section

variable (move : Span → Span)

def Token.moved (token : Token) : Token :=
  { token with span := move token.span }

def SyntaxError.moved (error : SyntaxError) : SyntaxError :=
  { error with span := error.span.map move }

/-- A run on the moved tokens, by the run on the tokens themselves. -/
def movedRun {α : Type} (change : α → α) (outcome : Except SyntaxError (α × List Token)) :
    Except SyntaxError (α × List Token) :=
  match outcome with
  | .error error => .error (error.moved move)
  | .ok (result, rest) => .ok (change result, rest.map (Token.moved move))

/-- The second reader does to moved tokens what the first does to the tokens themselves. -/
def Moves {α : Type} (change : α → α) (first second : TokenReader α) : Prop :=
  ∀ tokens : List Token,
    second.run (tokens.map (Token.moved move)) = movedRun move change (first.run tokens)

/-- The reader does to moved tokens what it does to the tokens themselves. -/
abbrev Follows {α : Type} (reader : TokenReader α) : Prop :=
  Moves move id reader reader

end

variable {move : Span → Span} {α β : Type}

/-! ## Putting readers together -/

namespace Moves

theorem pure {change : α → α} (result : α) :
    Moves move change (Pure.pure result) (Pure.pure (change result)) :=
  fun _ => rfl

theorem refuse {change : α → α} (error : SyntaxError) :
    Moves move change (Reader.refuse error) (Reader.refuse (error.moved move)) :=
  fun _ => rfl

theorem bind {change : α → α} {changeNext : β → β} {first second : TokenReader α}
    {firstNext secondNext : α → TokenReader β} (moves : Moves move change first second)
    (next : ∀ result, Moves move changeNext (firstNext result) (secondNext (change result))) :
    Moves move changeNext (first >>= firstNext) (second >>= secondNext) := by
  intro tokens
  rw [Reader.run_bind, Reader.run_bind, moves tokens]
  cases first.run tokens with
  | error error => rfl
  | ok read => exact next read.1 read.2

/-- Most readers give results without places. -/
theorem follow {change : β → β} {reader : TokenReader α} {firstNext secondNext : α → TokenReader β}
    (follows : Follows move reader)
    (next : ∀ result, Moves move change (firstNext result) (secondNext result)) :
    Moves move change (reader >>= firstNext) (reader >>= secondNext) :=
  bind follows next

theorem expect {change : α → α} (expected : Expected) {accept : Token → Option α}
    (accepts : ∀ token, accept (token.moved move) = (accept token).map change) :
    Moves move change (Query.expect expected accept) (Query.expect expected accept) := by
  intro tokens
  cases tokens with
  | nil => rfl
  | cons token rest =>
      rw [List.map_cons, Query.expect, Reader.run_symbol_cons, Reader.run_symbol_cons,
        accepts token]
      cases accept token <;> rfl

/-- A repetition goes on where it goes on for the moved tokens. -/
theorem many {first second : Token → Option (TokenReader α)}
    (ends : ∀ token, first token = none → second (token.moved move) = none)
    (begins : ∀ token body, first token = some body →
      ∃ other, second (token.moved move) = some other ∧ Moves move id body other) :
    Moves move id (Reader.many first) (Reader.many second) := by
  intro tokens
  change Reader.manyRun second (tokens.map (Token.moved move)) =
    movedRun move id (Reader.manyRun first tokens)
  fun_induction Reader.manyRun first tokens with
  | case1 =>
      rw [List.map_nil, Reader.manyRun]
      rfl
  | case2 next following isNone =>
      rw [List.map_cons, Reader.manyRun_of_none (ends next isNone)]
      rfl
  | case3 next following body isSome refusal failure =>
      rcases begins next body isSome with ⟨other, otherBegins, moves⟩
      rw [List.map_cons, Reader.manyRun_of_some otherBegins, moves following, failure]
      rfl
  | case4 next following body isSome head rest success refusal failure inductionHypothesis =>
      rcases begins next body isSome with ⟨other, otherBegins, moves⟩
      rw [List.map_cons, Reader.manyRun_of_some otherBegins, moves following, success]
      change (Reader.manyRun second (rest.map (Token.moved move))).map _ = _
      rw [inductionHypothesis, failure]
      rfl
  | case5 next following body isSome head rest success others remaining recursion
      inductionHypothesis =>
      rcases begins next body isSome with ⟨other, otherBegins, moves⟩
      rw [List.map_cons, Reader.manyRun_of_some otherBegins, moves following, success]
      change (Reader.manyRun second (rest.map (Token.moved move))).map _ = _
      rw [inductionHypothesis, recursion]
      rfl

theorem separated {item : TokenConsumer α} {another : TokenReader Bool}
    (items : Follows move item.toReader) (answers : Follows move another) :
    Follows move (Reader.separated item another).toReader := by
  intro tokens
  change Reader.separatedRun item another (tokens.map (Token.moved move)) =
    movedRun move id (Reader.separatedRun item another tokens)
  fun_induction Reader.separatedRun item another tokens with
  | case1 tokens refusal failure =>
      rw [Reader.separatedRun_eq, items tokens, failure]
      rfl
  | case2 tokens head rest success refusal failure =>
      rw [Reader.separatedRun_eq, items tokens, success]
      change another.run (rest.map (Token.moved move)) >>= _ = _
      rw [answers rest, failure]
      rfl
  | case3 tokens head rest success remaining ends =>
      rw [Reader.separatedRun_eq, items tokens, success]
      change another.run (rest.map (Token.moved move)) >>= _ = _
      rw [answers rest, ends]
      rfl
  | case4 tokens head rest success following continues refusal failure inductionHypothesis =>
      rw [Reader.separatedRun_eq, items tokens, success]
      change another.run (rest.map (Token.moved move)) >>= _ = _
      rw [answers rest, continues]
      change (Reader.separatedRun item another (following.map (Token.moved move))).map _ = _
      rw [inductionHypothesis, failure]
      rfl
  | case5 tokens head rest success following continues others remaining recursion
      inductionHypothesis =>
      rw [Reader.separatedRun_eq, items tokens, success]
      change another.run (rest.map (Token.moved move)) >>= _ = _
      rw [answers rest, continues]
      change (Reader.separatedRun item another (following.map (Token.moved move))).map _ = _
      rw [inductionHypothesis, recursion]
      rfl

end Moves

theorem untilEnd_moved {step : α → Token → TokenReader α}
    (steps : ∀ start token, Moves move id (step start token) (step start (token.moved move)))
    (start : α) (tokens : List Token) :
    Reader.untilEnd step start (tokens.map (Token.moved move)) =
      (Reader.untilEnd step start tokens).mapError (SyntaxError.moved move) := by
  fun_induction Reader.untilEnd step start tokens with
  | case1 start =>
      rw [List.map_nil, Reader.untilEnd]
      rfl
  | case2 start next following refusal failure =>
      rw [List.map_cons, Reader.untilEnd_cons, steps start next following, failure]
      rfl
  | case3 start next following reached rest success inductionHypothesis =>
      rw [List.map_cons, Reader.untilEnd_cons, steps start next following, success]
      exact inductionHypothesis

/-! ## The readers of queries -/

theorem follows_expect (expected : Expected) {accept : Token → Option α}
    (blind : ∀ token : Token, accept (token.moved move) = accept token) :
    Follows move (expect expected accept).toReader := by
  apply Moves.expect
  intro token
  rw [blind token, Option.map_id, id]

theorem follows_expectKind (expected : Expected) (kind : TokenKind) :
    Follows move (expectKind expected kind).toReader :=
  follows_expect expected fun _ => rfl

theorem follows_equality : Follows move equality.toReader :=
  follows_expect .equality fun _ => rfl

theorem follows_numberToken : Follows move numberToken.toReader :=
  follows_expect .number fun _ => rfl

theorem follows_anotherItem : Follows move anotherItem.toReader :=
  follows_expect .commaOrParen fun _ => rfl

/-- A string is read with its place. -/
theorem moves_stringToken :
    Moves move (fun found : String × Span => (found.1, move found.2)) stringToken.toReader
      stringToken.toReader := by
  apply Moves.expect
  intro token
  rcases token with ⟨kind, span⟩
  cases kind <;> rfl

/-- The place of a string is shown if nothing can be made of the string. -/
theorem follows_valueOf (convert : String → Except SyntaxFault α) :
    Follows move (valueOf convert).toReader := by
  apply moves_stringToken.bind
  rintro ⟨content, span⟩
  dsimp only
  cases convert content with
  | ok value => exact .pure value
  | error fault => exact .refuse (.located fault span)

theorem moves_peek :
    Moves move (Option.map (Token.moved move)) Reader.peek Reader.peek := by
  intro tokens
  rw [Reader.run_peek, Reader.run_peek, List.head?_map]
  rfl

theorem follows_tagComparison (tag : String) : Follows move (tagComparison tag) := by
  apply moves_peek.bind
  intro next
  have sameKind : (next.map (Token.moved move)).bind (·.kind.equality?) =
      next.bind (·.kind.equality?) := by
    cases next <;> rfl
  rw [sameKind]
  cases next.bind (·.kind.equality?) with
  | none => exact .pure _
  | some comparison =>
      exact .follow follows_equality fun _ => .follow (follows_valueOf _) fun _ => .pure _

/-- A field is compared with something that is made of a string. -/
theorem follows_comparison (convert : String → Except SyntaxFault α)
    (build : Equality → α → Predicate) :
    Follows move (equality.toReader >>= fun comparison =>
      (valueOf convert).toReader >>= fun value => Pure.pure (build comparison value)) :=
  .follow follows_equality fun _ => .follow (follows_valueOf convert) fun _ => .pure _

theorem moves_predicateAfter (first : Token) :
    Moves move id (predicateAfter first) (predicateAfter (first.moved move)) := by
  rcases first with ⟨kind, span⟩
  cases kind with
  | keyword word =>
      cases word with
      | sessionId => exact follows_comparison _ _
      | id => exact follows_comparison _ _
      | status => exact follows_comparison _ _
      | name => exact follows_comparison _ _
      | classname => exact follows_comparison _ _
      | testsuite => exact follows_comparison _ _
      | file => exact follows_comparison _ _
      | _ => exact .refuse _
  | hash => exact .follow (follows_valueOf _) follows_tagComparison
  | bang =>
      exact .follow (follows_expectKind _ _) fun _ => .follow (follows_valueOf _) fun _ => .pure _
  | _ => exact .refuse _

theorem follows_predicate : Follows move predicate.toReader := by
  have first : Moves move (Token.moved move) (expect .predicate some).toReader
      (expect .predicate some).toReader := Moves.expect _ fun _ => rfl
  exact first.bind moves_predicateAfter

theorem moves_chainAfter (first : Token) :
    Moves move id (chainAfter first) (chainAfter (first.moved move)) := by
  have links : Follows move (Reader.many linkAfter) := by
    apply Moves.many
    · intro token ends
      exact ends
    · intro token body begins
      refine ⟨body, begins, ?_⟩
      rcases Option.map_eq_some_iff.mp begins with ⟨connective, -, rfl⟩
      exact .follow follows_predicate fun _ => .pure _
  exact .bind (moves_predicateAfter first) fun _ => .follow links fun _ => .pure _

theorem follows_groupKey : Follows move groupKey.toReader := by
  apply Moves.follow (follows_expect .groupColumn fun _ => rfl)
  intro isSession
  cases isSession with
  | true => exact .pure _
  | false => exact .follow (follows_valueOf _) fun _ => .pure _

theorem follows_clauseBody (name : ClauseName) : Follows move (clauseBody name) := by
  cases name with
  | groupBy =>
      exact .follow (follows_expectKind _ _) fun _ =>
        .follow (.separated follows_groupKey follows_anotherItem) fun _ => .pure _
  | group =>
      exact .follow (follows_expectKind _ _) fun _ => .follow (follows_expectKind _ _) fun _ =>
        .follow (.separated (follows_valueOf _) follows_anotherItem) fun _ => .pure _
  | offset =>
      exact .follow (follows_expectKind _ _) fun _ => .follow follows_numberToken fun _ => .pure _
  | limit =>
      exact .follow (follows_expectKind _ _) fun _ => .follow follows_numberToken fun _ => .pure _
  | startDate =>
      exact .follow (follows_expectKind _ _) fun _ => .follow (follows_valueOf _) fun _ => .pure _
  | endDate =>
      exact .follow (follows_expectKind _ _) fun _ => .follow (follows_valueOf _) fun _ => .pure _

theorem moves_addClause (before : List Clause) (first : Token) :
    Moves move id (addClause before first) (addClause before (first.moved move)) := by
  have sameKind : (first.moved move).kind = first.kind := rfl
  unfold addClause
  rw [sameKind]
  cases first.kind.clause? with
  | some name =>
      apply Moves.follow (follows_clauseBody name)
      intro clause
      split
      · exact .refuse _
      · exact .pure _
  | none =>
      dsimp only
      split
      · split
        · exact .refuse _
        · exact .bind (moves_chainAfter first) fun _ => .pure _
      · exact .refuse _

/-! ## Queries -/

/-- When all tokens are moved, the same query is read, or the same fault is found where its
token was moved. -/
theorem ofTokens_moved (move : Span → Span) (tokens : List Token) :
    ofTokens (tokens.map (Token.moved move)) =
      (ofTokens tokens).mapError (SyntaxError.moved move) := by
  rw [ofTokens, ofTokens, readClauses, readClauses, untilEnd_moved moves_addClause]
  cases Reader.untilEnd addClause [] tokens with
  | error error => rfl
  | ok clauses =>
      change finish clauses = (finish clauses).mapError (SyntaxError.moved move)
      unfold finish
      dsimp only
      split <;> rfl

/-- Tokens of the same kinds spell the same query, or have the same fault. -/
theorem ofTokens_congr {first second : List Token}
    (kinds : first.map Token.kind = second.map Token.kind) :
    (ofTokens first).mapError SyntaxError.fault = (ofTokens second).mapError SyntaxError.fault := by
  have together (tokens : List Token) : tokens.map (Token.moved fun _ => ⟨0, 0⟩) =
      (tokens.map Token.kind).map fun kind => ⟨kind, ⟨0, 0⟩⟩ := by
    rw [List.map_map]
    rfl
  have unmoved (tokens : List Token) :
      (ofTokens (tokens.map (Token.moved fun _ => ⟨0, 0⟩))).mapError SyntaxError.fault =
        (ofTokens tokens).mapError SyntaxError.fault := by
    rw [ofTokens_moved]
    cases ofTokens tokens <;> rfl
  rw [← unmoved first, ← unmoved second, together, together, kinds]

/-- An error is at the place of a token, if it is at a place. -/
theorem span_of_ofTokens_error {tokens : List Token} {error : SyntaxError} {span : Span}
    (failure : ofTokens tokens = .error error) (place : error.span = some span) :
    ∃ token ∈ tokens, token.span = span := by
  apply Classical.byContradiction
  intro elsewhere
  let move : Span → Span := fun other => if other = span then ⟨span.start, span.stop + 1⟩ else other
  have unmoved : tokens.map (Token.moved move) = tokens := by
    rw [← List.map_id tokens, List.map_map]
    apply List.map_congr_left
    intro token member
    have apart : token.span ≠ span := fun same => elsewhere ⟨token, member, same⟩
    change (⟨token.kind, if token.span = span then _ else token.span⟩ : Token) = token
    rw [if_neg apart]
  have same := ofTokens_moved move tokens
  rw [unmoved, failure] at same
  have moved := congrArg SyntaxError.span (Except.error.inj same)
  change error.span = error.span.map move at moved
  rw [place, Option.map_some, Option.some.injEq] at moved
  change span = if span = span then ⟨span.start, span.stop + 1⟩ else span at moved
  rw [if_pos rfl] at moved
  exact absurd (congrArg Span.stop moved) (Nat.ne_of_lt (Nat.lt_succ_self _))

end Query
end TestQuery
