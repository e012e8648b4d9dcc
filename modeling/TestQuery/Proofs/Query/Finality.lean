import TestQuery.Proofs.Query.Sentence

namespace TestQuery
namespace Query

open Text

/-!
# Errors that stand

Tokens are read one after the other.  So an error that has a place is decided by the tokens up
to there, and no token that comes later takes it back.  An error without a place is of two
sorts: the tokens ran out where another one was needed, or all of them were read and something
is missing among the clauses.

Most readers look at no token that they do not take.  After a tag, and after each link of a
chain, the next token is looked at; there what has been read is settled only if there is one.
-/

/-! ## Running out of tokens -/

/-- The reader takes all of the tokens, one after the other, and then needs one more. -/
inductive RunsOut (expected : Expected) : {α : Type} → TokenReader α → List Token → Prop where
  | here {α : Type} (accept : Token → Option α) :
      RunsOut expected (expect expected accept).toReader []
  | first {α β : Type} {first : TokenReader α} (next : α → TokenReader β) {tokens : List Token}
      (runsOut : RunsOut expected first tokens) : RunsOut expected (first >>= next) tokens
  | next {α β : Type} {first : TokenReader α} {next : α → TokenReader β}
      {tokens rest : List Token} {result : α} (success : first.run tokens = .ok (result, rest))
      (runsOut : RunsOut expected (next result) rest) : RunsOut expected (first >>= next) tokens
  | inside {α : Type} {item : Token → Option (TokenReader α)} {token : Token} {tokens : List Token}
      {body : TokenReader α} (begins : item token = some body)
      (runsOut : RunsOut expected body tokens) :
      RunsOut expected (Reader.many item) (token :: tokens)
  | later {α : Type} {item : Token → Option (TokenReader α)} {token : Token}
      {tokens rest : List Token} {body : TokenReader α} {result : α}
      (begins : item token = some body) (success : body.run tokens = .ok (result, rest))
      (runsOut : RunsOut expected (Reader.many item) rest) :
      RunsOut expected (Reader.many item) (token :: tokens)
  | item {α : Type} {item : TokenConsumer α} (another : TokenReader Bool) {tokens : List Token}
      (runsOut : RunsOut expected item.toReader tokens) :
      RunsOut expected (Reader.separated item another).toReader tokens
  | answer {α : Type} {item : TokenConsumer α} {another : TokenReader Bool}
      {tokens rest : List Token} {result : α} (success : item.run tokens = .ok (result, rest))
      (runsOut : RunsOut expected another rest) :
      RunsOut expected (Reader.separated item another).toReader tokens
  | another {α : Type} {item : TokenConsumer α} {another : TokenReader Bool}
      {tokens middle rest : List Token} {result : α}
      (success : item.run tokens = .ok (result, middle))
      (continues : another.run middle = .ok (true, rest))
      (runsOut : RunsOut expected (Reader.separated item another).toReader rest) :
      RunsOut expected (Reader.separated item another).toReader tokens

/-- A reader that runs out of tokens says so. -/
theorem RunsOut.run_eq {expected : Expected} {α : Type} {reader : TokenReader α}
    {tokens : List Token} (runsOut : RunsOut expected reader tokens) :
    reader.run tokens = .error (.ended expected) := by
  induction runsOut with
  | here accept => rfl
  | first next runsOut inductionHypothesis =>
      rw [Reader.run_bind, inductionHypothesis]
  | next success runsOut inductionHypothesis =>
      rw [Reader.run_bind_of_ok success, inductionHypothesis]
  | inside begins runsOut inductionHypothesis =>
      change Reader.manyRun _ _ = _
      rw [Reader.manyRun_of_some begins, inductionHypothesis]
      rfl
  | later begins success runsOut inductionHypothesis =>
      change Reader.manyRun _ _ = _ at inductionHypothesis
      change Reader.manyRun _ _ = _
      rw [Reader.manyRun_of_some begins, success]
      change Except.map _ (Reader.manyRun _ _) = _
      rw [inductionHypothesis]
      rfl
  | item another runsOut inductionHypothesis =>
      change Reader.separatedRun _ _ _ = _
      rw [Reader.separatedRun_eq, inductionHypothesis]
      rfl
  | @answer α item another tokens rest result success runsOut inductionHypothesis =>
      change Reader.separatedRun _ _ _ = _
      rw [Reader.separatedRun_eq, success]
      change another.run rest >>= _ = _
      rw [inductionHypothesis]
      rfl
  | @another α item another tokens middle rest result success continues runsOut
      inductionHypothesis =>
      change Reader.separatedRun _ _ _ = _ at inductionHypothesis
      change Reader.separatedRun _ _ _ = _
      rw [Reader.separatedRun_eq, success]
      change another.run middle >>= _ = _
      rw [continues]
      change Except.map _ (Reader.separatedRun _ _ _) = _
      rw [inductionHypothesis]
      rfl

/-! ## Outcomes that stand -/

/-- The outcome with more tokens left. -/
def withMore {α : Type} (more : List Token) (outcome : Except SyntaxError (α × List Token)) :
    Except SyntaxError (α × List Token) :=
  outcome.map fun read => (read.1, read.2 ++ more)

/-- The outcome may change when more tokens follow: the tokens ran out, or a reader that looks
ahead has seen their end. -/
def Undecided {α : Type} (ahead : Bool) : Except SyntaxError (α × List Token) → Prop
  | .error error => error.span = none
  | .ok (_, rest) => ahead = true ∧ rest = []

/-- What the reader finds stands, unless the tokens run out on it.  `ahead` tells whether it may
look at a token that it does not take. -/
structure Stands {α : Type} (ahead : Bool) (reader : TokenReader α) : Prop where
  kept : ∀ tokens more, ¬ Undecided ahead (reader.run tokens) →
    reader.run (tokens ++ more) = withMore more (reader.run tokens)
  runsOut : ∀ tokens error, reader.run tokens = .error error → error.span = none →
    ∃ expected, error = .ended expected ∧ RunsOut expected reader tokens

variable {α β : Type} {ahead : Bool}

namespace Stands

theorem pure (result : α) : Stands ahead (Pure.pure result : TokenReader α) where
  kept _ _ _ := rfl
  runsOut _ _ failure _ := by cases failure

theorem refuse (fault : SyntaxFault) (span : Span) :
    Stands ahead (Reader.refuse (.located fault span) : TokenReader α) where
  kept _ _ _ := rfl
  runsOut _ _ failure unplaced := by
    cases failure
    cases unplaced

theorem expect (expected : Expected) (accept : Token → Option α) :
    Stands ahead (Query.expect expected accept).toReader where
  kept tokens more decided := by
    cases tokens with
    | nil => exact absurd rfl decided
    | cons token rest =>
        rw [List.cons_append, Query.expect, Reader.run_symbol_cons, Reader.run_symbol_cons]
        cases accept token <;> rfl
  runsOut tokens error failure unplaced := by
    cases tokens with
    | nil =>
        cases failure
        exact ⟨expected, rfl, .here accept⟩
    | cons token rest =>
        rw [Query.expect, Reader.run_symbol_cons] at failure
        cases accepted : accept token with
        | some result =>
            rw [accepted] at failure
            cases failure
        | none =>
            rw [accepted] at failure
            cases failure
            cases unplaced

/-- A failure of two readers in a row is one of the first, or of the second after it. -/
theorem runsOut_bind {first : TokenReader α} {next : α → TokenReader β} {firstAhead : Bool}
    (stands : Stands firstAhead first) (nextStands : ∀ result, Stands ahead (next result))
    (tokens : List Token) (error : SyntaxError)
    (failure : (first >>= next).run tokens = .error error) (unplaced : error.span = none) :
    ∃ expected, error = .ended expected ∧ RunsOut expected (first >>= next) tokens := by
  rw [Reader.run_bind] at failure
  cases outcome : first.run tokens with
  | error refusal =>
      rw [outcome] at failure
      cases failure
      rcases stands.runsOut tokens error outcome unplaced with ⟨expected, isEnd, runsOut⟩
      exact ⟨expected, isEnd, .first next runsOut⟩
  | ok read =>
      rw [outcome] at failure
      rcases (nextStands read.1).runsOut read.2 error failure unplaced with
        ⟨expected, isEnd, runsOut⟩
      exact ⟨expected, isEnd, .next outcome runsOut⟩

/-- Whatever follows a reader that does not look ahead. -/
theorem bind {first : TokenReader α} {next : α → TokenReader β} (stands : Stands false first)
    (nextStands : ∀ result, Stands ahead (next result)) : Stands ahead (first >>= next) where
  kept tokens more decided := by
    have firstKept := stands.kept tokens more
    rw [Reader.run_bind] at decided ⊢
    rw [Reader.run_bind]
    cases outcome : first.run tokens with
    | error refusal =>
        rw [outcome] at decided firstKept
        rw [firstKept decided]
        rfl
    | ok read =>
        rw [outcome] at decided firstKept
        rw [firstKept fun undecided => Bool.false_ne_true undecided.1]
        exact (nextStands read.1).kept read.2 more decided
  runsOut := runsOut_bind stands nextStands

/-- What follows a reader that looks ahead must not decide anything at the end of the tokens. -/
theorem bindAhead {first : TokenReader α} {next : α → TokenReader β} (stands : Stands true first)
    (nextStands : ∀ result, Stands true (next result))
    (undecided : ∀ result, Undecided true ((next result).run [])) :
    Stands true (first >>= next) where
  kept tokens more decided := by
    have firstKept := stands.kept tokens more
    rw [Reader.run_bind] at decided ⊢
    rw [Reader.run_bind]
    cases outcome : first.run tokens with
    | error refusal =>
        rw [outcome] at decided firstKept
        rw [firstKept decided]
        rfl
    | ok read =>
        rcases read with ⟨result, rest⟩
        rw [outcome] at decided firstKept
        have tokensLeft : rest ≠ [] := by
          rintro rfl
          exact decided (undecided result)
        rw [firstKept fun undecided => tokensLeft undecided.2]
        exact (nextStands result).kept rest more decided
  runsOut := runsOut_bind stands nextStands

/-- The next token is only looked at.  Where there is none, nothing must be decided. -/
theorem peek {next : Option Token → TokenReader α} (nextStands : ∀ token, Stands true (next token))
    (undecided : Undecided true ((next none).run [])) : Stands true (Reader.peek >>= next) where
  kept tokens more decided := by
    cases tokens with
    | nil => exact absurd undecided decided
    | cons token rest => exact (nextStands (some token)).kept (token :: rest) more decided
  runsOut tokens error failure unplaced := by
    rcases (nextStands tokens.head?).runsOut tokens error failure unplaced with
      ⟨expected, isEnd, runsOut⟩
    exact ⟨expected, isEnd, .next (Reader.run_peek tokens) runsOut⟩

theorem undecided_map {outcome : Except SyntaxError (α × List Token)} (change : α → β) :
    Undecided ahead (outcome.map fun read => (change read.1, read.2)) ↔
      Undecided ahead outcome := by
  cases outcome <;> rfl

theorem manyRun_kept {item : Token → Option (TokenReader α)}
    (bodies : ∀ token body, item token = some body → Stands true body) (tokens more : List Token)
    (decided : ¬ Undecided true (Reader.manyRun item tokens)) :
    Reader.manyRun item (tokens ++ more) = withMore more (Reader.manyRun item tokens) := by
  match tokens with
  | [] =>
      rw [Reader.manyRun] at decided
      exact absurd ⟨rfl, rfl⟩ decided
  | token :: following =>
      cases begins : item token with
      | none =>
          rw [List.cons_append, Reader.manyRun_of_none begins, Reader.manyRun_of_none begins]
          rfl
      | some body =>
          have kept := (bodies token body begins).kept following more
          rw [Reader.manyRun_of_some begins] at decided
          rw [List.cons_append, Reader.manyRun_of_some begins, Reader.manyRun_of_some begins]
          cases outcome : body.run following with
          | error refusal =>
              rw [outcome] at decided kept
              rw [kept decided]
              rfl
          | ok read =>
              rcases read with ⟨result, rest⟩
              rw [outcome] at decided kept
              have later : ¬ Undecided true (Reader.manyRun item rest) :=
                mt (undecided_map (result :: ·)).mpr decided
              have tokensLeft : rest ≠ [] := by
                rintro rfl
                rw [Reader.manyRun] at later
                exact later ⟨rfl, rfl⟩
              rw [kept fun undecided => tokensLeft undecided.2]
              change Except.map _ (Reader.manyRun item (rest ++ more)) =
                withMore more (Except.map _ (Reader.manyRun item rest))
              rw [manyRun_kept bodies rest more later]
              cases Reader.manyRun item rest <;> rfl
termination_by tokens.length
decreasing_by
  exact Nat.lt_succ_of_le (body.bounded outcome)

theorem many {item : Token → Option (TokenReader α)}
    (bodies : ∀ token body, item token = some body → Stands true body) :
    Stands true (Reader.many item) where
  kept := manyRun_kept bodies
  runsOut tokens error failure unplaced := by
    change Reader.manyRun item tokens = .error error at failure
    fun_induction Reader.manyRun item tokens with
    | case1 => cases failure
    | case2 => cases failure
    | case3 token following body begins refusal bodyFailure =>
        cases failure
        rcases (bodies token body begins).runsOut following error bodyFailure unplaced with
          ⟨expected, isEnd, runsOut⟩
        exact ⟨expected, isEnd, .inside begins runsOut⟩
    | case4 token following body begins result rest success refusal laterFailure
        inductionHypothesis =>
        cases failure
        rcases inductionHypothesis laterFailure with ⟨expected, isEnd, runsOut⟩
        exact ⟨expected, isEnd, .later begins success runsOut⟩
    | case5 => cases failure

theorem separatedRun_kept {item : TokenConsumer α} {another : TokenReader Bool}
    (items : Stands false item.toReader) (answers : Stands false another) (tokens more : List Token)
    (decided : ¬ Undecided false (Reader.separatedRun item another tokens)) :
    Reader.separatedRun item another (tokens ++ more) =
      withMore more (Reader.separatedRun item another tokens) := by
  have itemKept := items.kept tokens more
  rw [Reader.separatedRun_eq] at decided
  rw [Reader.separatedRun_eq item another (tokens ++ more),
    Reader.separatedRun_eq item another tokens]
  cases success : item.run tokens with
  | error refusal =>
      rw [success] at decided itemKept
      rw [itemKept decided]
      rfl
  | ok read =>
      rcases read with ⟨result, rest⟩
      rw [success] at decided itemKept
      rw [itemKept fun undecided => Bool.false_ne_true undecided.1]
      have answerKept := answers.kept rest more
      change ¬ Undecided false (another.run rest >>= _) at decided
      change another.run (rest ++ more) >>= _ = withMore more (another.run rest >>= _)
      cases answer : another.run rest with
      | error refusal =>
          rw [answer] at decided answerKept
          rw [answerKept decided]
          rfl
      | ok answered =>
          rcases answered with ⟨continues, following⟩
          rw [answer] at decided answerKept
          rw [answerKept fun undecided => Bool.false_ne_true undecided.1]
          cases continues with
          | false => rfl
          | true =>
              have later : ¬ Undecided false (Reader.separatedRun item another following) :=
                mt (undecided_map (result :: ·)).mpr decided
              change Except.map _ (Reader.separatedRun item another (following ++ more)) =
                withMore more (Except.map _ (Reader.separatedRun item another following))
              rw [separatedRun_kept items answers following more later]
              cases Reader.separatedRun item another following <;> rfl
termination_by tokens.length
decreasing_by
  exact Nat.lt_of_le_of_lt (another.bounded answer) (item.consumes success)

theorem separated {item : TokenConsumer α} {another : TokenReader Bool}
    (items : Stands false item.toReader) (answers : Stands false another) :
    Stands false (Reader.separated item another).toReader where
  kept := separatedRun_kept items answers
  runsOut tokens error failure unplaced := by
    change Reader.separatedRun item another tokens = .error error at failure
    fun_induction Reader.separatedRun item another tokens with
    | case1 tokens refusal itemFailure =>
        cases failure
        rcases items.runsOut tokens error itemFailure unplaced with ⟨expected, isEnd, runsOut⟩
        exact ⟨expected, isEnd, .item another runsOut⟩
    | case2 tokens result rest success refusal answerFailure =>
        cases failure
        rcases answers.runsOut rest error answerFailure unplaced with ⟨expected, isEnd, runsOut⟩
        exact ⟨expected, isEnd, .answer success runsOut⟩
    | case3 => cases failure
    | case4 tokens result rest success following continues refusal laterFailure
        inductionHypothesis =>
        cases failure
        rcases inductionHypothesis laterFailure with ⟨expected, isEnd, runsOut⟩
        exact ⟨expected, isEnd, .another success continues runsOut⟩
    | case5 => cases failure

end Stands

/-! ## The readers of queries -/

theorem stands_valueOf (convert : String → Except SyntaxFault α) :
    Stands ahead (valueOf convert).toReader := by
  apply Stands.bind (.expect _ _)
  rintro ⟨content, span⟩
  dsimp only
  cases convert content with
  | ok value => exact .pure value
  | error fault => exact .refuse fault span

/-- A field is compared with something that is made of a string. -/
theorem stands_comparison (convert : String → Except SyntaxFault α)
    (build : Equality → α → Predicate) :
    Stands ahead (equality.toReader >>= fun comparison =>
      (valueOf convert).toReader >>= fun value => Pure.pure (build comparison value)) :=
  .bind (.expect _ _) fun _ => .bind (stands_valueOf convert) fun _ => .pure _

/-- After a tag a comparison may still come, where there is no next token to tell. -/
theorem stands_tagComparison (tag : String) : Stands true (tagComparison tag) := by
  refine .peek (fun next => ?_) ⟨rfl, rfl⟩
  cases next.bind (·.kind.equality?) with
  | none => exact .pure _
  | some comparison => exact stands_comparison _ _

theorem stands_predicateAfter (first : Token) : Stands true (predicateAfter first) := by
  rcases first with ⟨kind, span⟩
  cases kind with
  | keyword word =>
      cases word with
      | sessionId => exact stands_comparison _ _
      | id => exact stands_comparison _ _
      | status => exact stands_comparison _ _
      | name => exact stands_comparison _ _
      | classname => exact stands_comparison _ _
      | testsuite => exact stands_comparison _ _
      | file => exact stands_comparison _ _
      | _ => exact .refuse _ _
  | hash => exact .bind (stands_valueOf _) stands_tagComparison
  | bang => exact .bind (.expect _ _) fun _ => .bind (stands_valueOf _) fun _ => .pure _
  | _ => exact .refuse _ _

theorem stands_chainAfter (first : Token) : Stands true (chainAfter first) := by
  have link (token : Token) (body : TokenReader Link) (begins : linkAfter token = some body) :
      Stands true body := by
    rcases Option.map_eq_some_iff.mp begins with ⟨connective, -, rfl⟩
    refine .bindAhead ?_ (fun _ => .pure _) fun _ => ⟨rfl, rfl⟩
    exact .bind (.expect _ _) stands_predicateAfter
  refine .bindAhead (stands_predicateAfter first) (fun head => ?_) fun head => ?_
  · exact .bindAhead (.many link) (fun _ => .pure _) fun _ => ⟨rfl, rfl⟩
  · have none : (Reader.many linkAfter).run [] = .ok ([], []) := by
      change Reader.manyRun linkAfter [] = _
      rw [Reader.manyRun]
    rw [Reader.run_bind_of_ok none]
    exact ⟨rfl, rfl⟩

theorem stands_groupKey : Stands false groupKey.toReader := by
  apply Stands.bind (.expect _ _)
  intro isSession
  cases isSession with
  | true => exact .pure _
  | false => exact .bind (stands_valueOf _) fun _ => .pure _

theorem stands_clauseBody (name : ClauseName) : Stands false (clauseBody name) := by
  cases name with
  | groupBy =>
      exact .bind (.expect _ _) fun _ =>
        .bind (.separated stands_groupKey (.expect _ _)) fun _ => .pure _
  | group =>
      exact .bind (.expect _ _) fun _ => .bind (.expect _ _) fun _ =>
        .bind (.separated (stands_valueOf _) (.expect _ _)) fun _ => .pure _
  | offset => exact .bind (.expect _ _) fun _ => .bind (.expect _ _) fun _ => .pure _
  | limit => exact .bind (.expect _ _) fun _ => .bind (.expect _ _) fun _ => .pure _
  | startDate => exact .bind (.expect _ _) fun _ => .bind (stands_valueOf _) fun _ => .pure _
  | endDate => exact .bind (.expect _ _) fun _ => .bind (stands_valueOf _) fun _ => .pure _

/-- A clause that came before is found out when the whole clause has been read: its tokens are
all taken then, and none after them is looked at. -/
theorem stands_addClause (before : List Clause) (first : Token) :
    Stands true (addClause before first) := by
  unfold addClause
  cases first.kind.clause? with
  | some name =>
      apply Stands.bind (stands_clauseBody name)
      intro clause
      split
      · exact .refuse _ _
      · exact .pure _
  | none =>
      dsimp only
      split
      · split
        · exact .refuse _ _
        · exact .bindAhead (stands_chainAfter first) (fun _ => .pure _) fun _ => ⟨rfl, rfl⟩
      · exact .refuse _ _

/-! ## Clauses -/

/-- After the clauses `before`, clauses are read from the tokens until they run out within
one. -/
inductive ClausesRunOut (expected : Expected) : (before : List Clause) → List Token → Prop where
  | within {before : List Clause} {token : Token} {tokens : List Token}
      (runsOut : RunsOut expected (addClause before token) tokens) :
      ClausesRunOut expected before (token :: tokens)
  | after {before clauses : List Clause} {token : Token} {tokens rest : List Token}
      (success : (addClause before token).run tokens = .ok (clauses, rest))
      (runsOut : ClausesRunOut expected clauses rest) :
      ClausesRunOut expected before (token :: tokens)

/-- The error at a place stands, and without a place the tokens ran out. -/
theorem untilEnd_error {before : List Clause} {tokens : List Token} {error : SyntaxError}
    (failure : Reader.untilEnd addClause before tokens = .error error) :
    (error.span ≠ none → ∀ more,
      Reader.untilEnd addClause before (tokens ++ more) = .error error) ∧
    (error.span = none → ∃ expected, error = .ended expected ∧
      ClausesRunOut expected before tokens) := by
  fun_induction Reader.untilEnd addClause before tokens with
  | case1 => cases failure
  | case2 before token following refusal clauseFailure =>
      cases failure
      have stands := stands_addClause before token
      constructor
      · intro placed more
        have kept := stands.kept following more
        rw [clauseFailure] at kept
        rw [List.cons_append, Reader.untilEnd_cons, kept placed]
        rfl
      · intro unplaced
        rcases stands.runsOut following error clauseFailure unplaced with
          ⟨expected, isEnd, runsOut⟩
        exact ⟨expected, isEnd, .within runsOut⟩
  | case3 before token following clauses rest success inductionHypothesis =>
      rcases inductionHypothesis failure with ⟨final, exhausted⟩
      constructor
      · intro placed more
        have tokensLeft : rest ≠ [] := by
          rintro rfl
          rw [Reader.untilEnd] at failure
          cases failure
        have kept := (stands_addClause before token).kept following more
        rw [success] at kept
        rw [List.cons_append, Reader.untilEnd_cons, kept fun undecided => tokensLeft undecided.2]
        exact final placed more
      · intro unplaced
        rcases exhausted unplaced with ⟨expected, isEnd, runsOut⟩
        exact ⟨expected, isEnd, .after success runsOut⟩

theorem ClausesRunOut.untilEnd_eq {expected : Expected} {before : List Clause}
    {tokens : List Token} (runsOut : ClausesRunOut expected before tokens) :
    Reader.untilEnd addClause before tokens = .error (.ended expected) := by
  induction runsOut with
  | within runsOut =>
      rw [Reader.untilEnd_cons, runsOut.run_eq]
      rfl
  | after success runsOut inductionHypothesis =>
      rw [Reader.untilEnd_cons, success]
      exact inductionHypothesis

/-- The clauses are all there, but they select a group and name no keys. -/
def SelectsUngrouped (clauses : List Clause) : Prop :=
  some .group ∈ clauses.map Clause.name? ∧ some .groupBy ∉ clauses.map Clause.name?

theorem finish_eq_error_iff {clauses : List Clause} {error : SyntaxError} :
    finish clauses = .error error ↔
      error = ⟨.selectorWithoutGroupBy, none⟩ ∧ SelectsUngrouped clauses := by
  by_cases ungrouped : SelectsUngrouped clauses
  · have refused : finish clauses = .error ⟨.selectorWithoutGroupBy, none⟩ := by
      cases outcome : finish clauses with
      | ok query => exact absurd ((finish_eq_ok_iff.mp outcome).1 ungrouped.1) ungrouped.2
      | error found =>
          rw [finish] at outcome
          split at outcome
          · exact outcome.symm
          · cases outcome
    rw [refused]
    constructor
    · rintro ⟨⟩
      exact ⟨rfl, ungrouped⟩
    · rintro ⟨rfl, -⟩
      rfl
  · have accepted : finish clauses = .ok (ofClauses clauses) := by
      refine finish_eq_ok_iff.mpr ⟨fun selected => ?_, rfl⟩
      by_contra unnamed
      exact ungrouped ⟨selected, unnamed⟩
    rw [accepted]
    constructor
    · rintro ⟨⟩
    · rintro ⟨-, selects⟩
      exact absurd selects ungrouped

/-! ## Queries -/

/-- An error at a place stands, whatever comes after the tokens.  An error without a place is
found if and only if all tokens have been taken: within a clause, where one more is needed, or
at the end of the clauses, where a group is selected and there are no keys. -/
theorem placed_error_stands (tokens : List Token) (error : SyntaxError) :
    (ofTokens tokens = .error error → error.span ≠ none →
      ∀ more, ofTokens (tokens ++ more) = .error error) ∧
    (ofTokens tokens = .error error ∧ error.span = none ↔
      (∃ expected, error = .ended expected ∧ ClausesRunOut expected [] tokens) ∨
      (error = ⟨.selectorWithoutGroupBy, none⟩ ∧
        ∃ clauses, Reader.Completed addClause [] tokens clauses ∧ SelectsUngrouped clauses)) := by
  have ofReading {tokens : List Token} {error : SyntaxError}
      (failure : Reader.untilEnd addClause [] tokens = .error error) :
      ofTokens tokens = .error error := by
    rw [ofTokens, readClauses, failure]
  have ofClauses {clauses : List Clause}
      (completed : Reader.Completed addClause [] tokens clauses) :
      ofTokens tokens = finish clauses := by
    rw [ofTokens, readClauses, Reader.untilEnd_eq_ok_iff.mpr completed]
  cases reading : Reader.untilEnd addClause [] tokens with
  | error found =>
      rcases untilEnd_error reading with ⟨final, exhausted⟩
      rw [ofReading reading]
      constructor
      · rintro ⟨⟩ placed more
        exact ofReading (final placed more)
      · constructor
        · rintro ⟨⟨⟩, unplaced⟩
          exact .inl (exhausted unplaced)
        · rintro (⟨expected, rfl, runsOut⟩ | ⟨-, clauses, completed, -⟩)
          · cases reading.symm.trans runsOut.untilEnd_eq
            exact ⟨rfl, rfl⟩
          · cases reading.symm.trans (Reader.untilEnd_eq_ok_iff.mpr completed)
  | ok clauses =>
      have completed := Reader.untilEnd_eq_ok_iff.mp reading
      rw [ofClauses completed, finish_eq_error_iff]
      constructor
      · rintro ⟨rfl, -⟩ placed
        exact absurd rfl placed
      · constructor
        · rintro ⟨⟨isError, ungrouped⟩, -⟩
          exact .inr ⟨isError, clauses, completed, ungrouped⟩
        · rintro (⟨expected, -, runsOut⟩ | ⟨rfl, others, alsoCompleted, ungrouped⟩)
          · cases reading.symm.trans runsOut.untilEnd_eq
          · cases reading.symm.trans (Reader.untilEnd_eq_ok_iff.mpr alsoCompleted)
            exact ⟨⟨rfl, ungrouped⟩, rfl⟩

/-- The tokens of `limit = 1 limit = 2`. -/
def repeatedLimit : List Token :=
  [⟨.keyword .limit, ⟨0, 5⟩⟩, ⟨.equal, ⟨6, 7⟩⟩, ⟨.number 1, ⟨8, 9⟩⟩,
    ⟨.keyword .limit, ⟨10, 15⟩⟩, ⟨.equal, ⟨16, 17⟩⟩, ⟨.number 2, ⟨18, 19⟩⟩]

/-- A clause is repeated, and neither a tag nor a stray comma after it matters.  Before its last
token has come it is not repeated yet. -/
theorem placed_error_stands_repeated :
    ofTokens (repeatedLimit ++ [⟨.hash, ⟨20, 21⟩⟩, ⟨.comma, ⟨21, 22⟩⟩]) =
      .error (.located (.duplicateClause .limit) ⟨10, 15⟩) ∧
    ClausesRunOut .number [] (repeatedLimit.take 5) := by
  have repeated : ofTokens repeatedLimit =
      .error (.located (.duplicateClause .limit) ⟨10, 15⟩) := by
    decide +kernel
  have unfinished : ofTokens (repeatedLimit.take 5) = .error (.ended .number) := by
    decide +kernel
  refine ⟨(placed_error_stands _ _).1 repeated (Option.some_ne_none _) _, ?_⟩
  rcases (placed_error_stands _ _).2.mp ⟨unfinished, rfl⟩ with
    ⟨expected, isEnd, runsOut⟩ | ⟨isSelector, -⟩
  · cases isEnd
    exact runsOut
  · cases isSelector

end Query
end TestQuery
