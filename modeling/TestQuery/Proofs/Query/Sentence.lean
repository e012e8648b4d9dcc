import TestQuery.Proofs.Query.Recognition
import Mathlib.Data.List.Nodup

namespace TestQuery
namespace Query

/-!
# Tokens are read exactly as the grammar says

A list of tokens is read as a query if and only if their kinds spell that query.
Each step of the reading takes one clause; a clause is accepted if none before it
has its name, and the invariant of the run is that the clauses so far have different
names.
-/

/-! ## Clauses by their first token -/

def clauseKind : ClauseName → TokenKind
  | .groupBy => .keyword .groupBy
  | .group => .keyword .group
  | .offset => .keyword .offset
  | .limit => .keyword .limit
  | .startDate => .keyword .startDate
  | .endDate => .keyword .endDate

theorem clause?_eq_some_iff {kind : TokenKind} {name : ClauseName} :
    kind.clause? = some name ↔ kind = clauseKind name := by
  constructor
  · intro found
    rw [TokenKind.clause?.eq_def] at found
    split at found <;> cases found <;> rfl
  · rintro rfl
    cases name <;> rfl

def ClauseRest : ClauseName → List TokenKind → Clause → Prop
  | .groupBy => fun kinds clause => ∃ inner keys, kinds = .leftParen :: (inner ++ [.rightParen]) ∧
      SpellsList SpellsKey inner keys ∧ clause = .groupBy keys
  | .group => fun kinds clause => ∃ inner values,
      kinds = .equal :: .leftParen :: (inner ++ [.rightParen]) ∧
      SpellsList SpellsText inner values ∧ clause = .group values
  | .offset => fun kinds clause => ∃ value, kinds = [.equal, .number value] ∧
      clause = .offset value
  | .limit => fun kinds clause => ∃ value, kinds = [.equal, .number value] ∧
      clause = .limit value
  | .startDate => fun kinds clause => ∃ moment : Timestamp,
      kinds = [.equal, .string (moment.render .query)] ∧ clause = .startDate moment
  | .endDate => fun kinds clause => ∃ moment : Timestamp,
      kinds = [.equal, .string (moment.render .query)] ∧ clause = .endDate moment

theorem ClauseRest.name {name : ClauseName} {kinds : List TokenKind} {clause : Clause}
    (following : ClauseRest name kinds clause) : clause.name? = some name := by
  cases name with
  | groupBy | group => rcases following with ⟨inner, items, -, -, rfl⟩; rfl
  | offset | limit | startDate | endDate => rcases following with ⟨value, -, rfl⟩; rfl

theorem ClauseRest.spells {name : ClauseName} {kinds : List TokenKind} {clause : Clause}
    (following : ClauseRest name kinds clause) :
    SpellsClause (clauseKind name :: kinds) clause := by
  cases name with
  | groupBy =>
      rcases following with ⟨inner, keys, rfl, listed, rfl⟩
      exact .groupBy listed
  | group =>
      rcases following with ⟨inner, values, rfl, listed, rfl⟩
      exact .group listed
  | offset =>
      rcases following with ⟨value, rfl, rfl⟩
      exact .offset value
  | limit =>
      rcases following with ⟨value, rfl, rfl⟩
      exact .limit value
  | startDate =>
      rcases following with ⟨moment, rfl, rfl⟩
      exact .startDate moment
  | endDate =>
      rcases following with ⟨moment, rfl, rfl⟩
      exact .endDate moment

/-- What follows the first token of a filter. -/
def ChainRest (kind : TokenKind) (kinds : List TokenKind) (chain : List Link) : Prop :=
  ∃ front rest head links, kinds = front ++ rest ∧ SpellsPredicate (kind :: front) head ∧
    SpellsLinks rest links ∧ chain = ⟨.and, some head⟩ :: links

theorem ChainRest.spells {kind : TokenKind} {kinds : List TokenKind} {chain : List Link}
    (following : ChainRest kind kinds chain) : SpellsClause (kind :: kinds) (.filter chain) := by
  rcases following with ⟨front, rest, head, links, rfl, first, others, rfl⟩
  exact .filter first others

/-- A predicate begins with a token that no other clause begins with. -/
theorem SpellsPredicate.begins {kinds : List TokenKind} {result : Predicate}
    (spelled : SpellsPredicate kinds result) :
    ∃ kind rest, kinds = kind :: rest ∧ kind.beginsPredicate = true ∧ kind.clause? = none ∧
      kind.equality? = none ∧ kind.connective? = none := by
  cases spelled with
  | text field comparison value => cases field <;> exact ⟨_, _, rfl, rfl, rfl, rfl, rfl⟩
  | _ => exact ⟨_, _, rfl, rfl, rfl, rfl, rfl⟩

/-- A clause is a named one or a filter, and its first token tells which. -/
theorem SpellsClause.cases_first {kinds : List TokenKind} {clause : Clause}
    (spelled : SpellsClause kinds clause) :
    (∃ name rest, kinds = clauseKind name :: rest ∧ ClauseRest name rest clause) ∨
      ∃ kind rest chain, kinds = kind :: rest ∧ kind.beginsPredicate = true ∧
        kind.clause? = none ∧ kind.equality? = none ∧ kind.connective? = none ∧
        ChainRest kind rest chain ∧ clause = .filter chain := by
  cases spelled with
  | @filter front rest head links first others =>
      rcases first.begins with ⟨kind, tail, rfl, begins, unnamed, noEquality, noConnective⟩
      exact .inr ⟨kind, tail ++ rest, _, rfl, begins, unnamed, noEquality, noConnective,
        ⟨tail, rest, head, links, rfl, first, others, rfl⟩, rfl⟩
  | groupBy listed => exact .inl ⟨.groupBy, _, rfl, _, _, rfl, listed, rfl⟩
  | group listed => exact .inl ⟨.group, _, rfl, _, _, rfl, listed, rfl⟩
  | offset value => exact .inl ⟨.offset, _, rfl, value, rfl, rfl⟩
  | limit value => exact .inl ⟨.limit, _, rfl, value, rfl, rfl⟩
  | startDate moment => exact .inl ⟨.startDate, _, rfl, moment, rfl, rfl⟩
  | endDate moment => exact .inl ⟨.endDate, _, rfl, moment, rfl, rfl⟩

/-! ## Reading one clause -/

/-- A sign of equality and the token of a value. -/
theorem Recognizes.assigned {α : Type} {value : TokenReader α} {token : α → TokenKind}
    (recognized : Recognizes value (fun kinds found => kinds = [token found]) anything)
    (build : α → Clause) :
    Recognizes (do
        (Query.expectKind .equal .equal).toReader
        let found ← value
        return build found)
      (fun kinds clause => ∃ found, kinds = [.equal, token found] ∧ clause = build found)
      anything := by
  refine ((Recognizes.expectKind .equal .equal).bind fun _ =>
    recognized.bind fun found => Recognizes.pure (build found)).congr ?_
  intro kinds clause
  constructor
  · rintro ⟨front, back, taken, rfl, rfl, rest, none, found, rfl, rfl, rfl, rfl⟩
    exact ⟨found, rfl, rfl⟩
  · rintro ⟨found, rfl, rfl⟩
    exact ⟨[.equal], [token found], (), rfl, rfl, [token found], [], found, rfl, rfl, rfl, rfl⟩

def number? : TokenKind → Option Int
  | .number value => some value
  | _ => none

theorem Recognizes.numberToken :
    Recognizes numberToken.toReader (fun kinds value => kinds = [.number value]) anything := by
  refine (Recognizes.expect number? fun token => rfl).congr ?_
  intro kinds value
  constructor
  · rintro ⟨kind, rfl, isNumber⟩
    rw [number?.eq_def] at isNumber
    split at isNumber
    · cases isNumber
      rfl
    · cases isNumber
  · rintro rfl
    exact ⟨.number value, rfl, rfl⟩

/-- The items between parentheses. -/
theorem Recognizes.enclosed {α : Type} {item : TokenConsumer α}
    {phrase : List TokenKind → α → Prop} (recognized : Recognizes item.toReader phrase anything)
    (build : List α → Clause) :
    Recognizes (do
        (Query.expectKind .leftParen .leftParen).toReader
        let items ← (Reader.separated item Query.anotherItem.toReader).toReader
        return build items)
      (fun kinds clause => ∃ inner items, kinds = .leftParen :: (inner ++ [.rightParen]) ∧
        SpellsList phrase inner items ∧ clause = build items) anything := by
  refine ((Recognizes.expectKind .leftParen .leftParen).bind fun _ =>
    recognized.separated.bind fun items => Recognizes.pure (build items)).congr ?_
  intro kinds clause
  constructor
  · rintro ⟨front, back, taken, rfl, rfl, list, none, items, rfl, ⟨inner, rfl, listed⟩, rfl, rfl⟩
    exact ⟨inner, items, by rw [List.append_nil]; rfl, listed, rfl⟩
  · rintro ⟨inner, items, rfl, listed, rfl⟩
    exact ⟨[.leftParen], inner ++ [.rightParen], (), rfl, rfl, inner ++ [.rightParen], [], items,
      (List.append_nil _).symm, ⟨inner, rfl, listed⟩, rfl, rfl⟩

theorem Recognizes.clauseBody (name : ClauseName) :
    Recognizes (clauseBody name) (ClauseRest name) anything := by
  cases name with
  | groupBy => exact Recognizes.groupKey.enclosed .groupBy
  | group =>
      refine ((Recognizes.expectKind .equal .equal).bind fun _ =>
        Recognizes.textValue.enclosed .group).congr ?_
      intro kinds clause
      constructor
      · rintro ⟨front, back, taken, rfl, rfl, inner, values, rfl, listed, rfl⟩
        exact ⟨inner, values, rfl, listed, rfl⟩
      · rintro ⟨inner, values, rfl, listed, rfl⟩
        exact ⟨[.equal], _, (), rfl, rfl, inner, values, rfl, listed, rfl⟩
  | offset => exact Recognizes.numberToken.assigned .offset
  | limit => exact Recognizes.numberToken.assigned .limit
  | startDate => exact Recognizes.dateValue.assigned .startDate
  | endDate => exact Recognizes.dateValue.assigned .endDate

/-! ## One step -/

theorem any_name_iff {before : List Clause} {name : ClauseName} :
    before.any (·.name? = some name) = true ↔ some name ∈ before.map Clause.name? := by
  simp only [List.any_eq_true, decide_eq_true_eq, List.mem_map]

theorem any_chain_iff {before : List Clause} :
    before.any (·.chain?.isSome) = true ↔ none ∈ before.map Clause.name? := by
  have filterOnly (clause : Clause) : clause.chain?.isSome = true ↔ clause.name? = none := by
    cases clause <;> simp [Clause.chain?, Clause.name?]
  simp only [List.any_eq_true, filterOnly, List.mem_map]

/-- A step takes a clause whose name is new. -/
theorem addClause_sound {before after : List Clause} {first : Token} {following rest : List Token}
    (success : (addClause before first).run following = .ok (after, rest)) :
    ∃ front clause, following = front ++ rest ∧
      SpellsClause (first.kind :: kindsOf front) clause ∧ after = before ++ [clause] ∧
      clause.name? ∉ before.map Clause.name? := by
  rw [addClause] at success
  split at success
  · rename_i name named
    rcases Reader.run_bind_eq_ok_iff.mp success with ⟨clause, middle, bodyRun, added⟩
    rcases (Recognizes.clauseBody name).sound bodyRun with ⟨front, rfl, spelled⟩
    split at added
    · cases added
    · rename_i isNew
      cases added
      refine ⟨front, clause, rfl, ?_, rfl, ?_⟩
      · rw [clause?_eq_some_iff.mp named]
        exact spelled.spells
      · rw [spelled.name]
        exact fun member => isNew (any_name_iff.mpr member)
  · split at success
    · split at success
      · cases success
      · rename_i isNew
        rcases Reader.run_bind_eq_ok_iff.mp success with ⟨chain, middle, chainRun, added⟩
        cases added
        rcases (Recognizes.chainAfter first).sound chainRun with ⟨front, rfl, spelled⟩
        exact ⟨front, .filter chain, rfl, ChainRest.spells spelled, rfl,
          fun member => isNew (any_chain_iff.mpr member)⟩
    · cases success

/-- A clause whose name is new is taken, if what follows does not prolong it. -/
theorem addClause_complete {before : List Clause} {first : Token} {front rest : List Token}
    {clause : Clause} (spelled : SpellsClause (first.kind :: kindsOf front) clause)
    (isNew : clause.name? ∉ before.map Clause.name?) (ended : NoContinuation rest) :
    (addClause before first).run (front ++ rest) = .ok (before ++ [clause], rest) := by
  rcases spelled.cases_first with ⟨name, kinds, split, following⟩ |
    ⟨kind, kinds, chain, split, begins, unnamed, -, -, following, rfl⟩
  · rcases List.cons.inj split with ⟨isWord, rfl⟩
    have absent : ¬ before.any (·.name? = some name) = true := by
      rw [any_name_iff, ← following.name]
      exact isNew
    rw [addClause, clause?_eq_some_iff.mpr isWord]
    refine (Reader.run_bind_of_ok
      ((Recognizes.clauseBody name).complete following trivial)).trans ?_
    rw [if_neg absent]
    rfl
  · rcases List.cons.inj split with ⟨rfl, rfl⟩
    have absent : ¬ before.any (·.chain?.isSome) = true := by
      rw [any_chain_iff]
      exact isNew
    rw [addClause, unnamed]
    dsimp only
    rw [if_pos begins, if_neg absent]
    exact Reader.run_bind_of_ok ((Recognizes.chainAfter first).complete following ended)

/-! ## The whole run -/

theorem SpellsClause.nonempty {kinds : List TokenKind} {clause : Clause}
    (spelled : SpellsClause kinds clause) : ∃ kind rest, kinds = kind :: rest ∧
      kind.equality? = none ∧ kind.connective? = none := by
  rcases spelled.cases_first with ⟨name, rest, split, -⟩ |
    ⟨kind, rest, chain, split, -, -, noEquality, noConnective, -, -⟩
  · exact ⟨clauseKind name, rest, split, by cases name <;> rfl, by cases name <;> rfl⟩
  · exact ⟨kind, rest, split, noEquality, noConnective⟩

/-- Clauses do not prolong what comes before them. -/
theorem noContinuation_clauses {tokens : List Token} {clauses : List Clause}
    (spelled : SpellsClauses (kindsOf tokens) clauses) : NoContinuation tokens := by
  cases tokens with
  | nil => exact ⟨nofun, nofun⟩
  | cons token following =>
      generalize whole : kindsOf (token :: following) = kinds at spelled
      cases spelled with
      | nil => cases whole
      | cons head tail =>
          rcases head.nonempty with ⟨kind, rest, rfl, noEquality, noConnective⟩
          have first : token.kind = kind := (List.cons.inj whole).1
          constructor
          · intro next isNext
            cases isNext
            rw [first, noEquality]
          · intro next isNext
            cases isNext
            rw [first, noConnective]

/-- A run adds clauses with new names, one for each clause that is spelled. -/
theorem completed_sound {before after : List Clause} {tokens : List Token}
    (completed : Reader.Completed addClause before tokens after)
    (once : (before.map Clause.name?).Nodup) :
    (after.map Clause.name?).Nodup ∧
      ∃ clauses, after = before ++ clauses ∧ SpellsClauses (kindsOf tokens) clauses := by
  induction completed with
  | @stop before => exact ⟨once, [], (List.append_nil before).symm, .nil⟩
  | @step before middle after token following rest success completed inductionHypothesis =>
      rcases addClause_sound success with ⟨front, clause, rfl, spelled, rfl, isNew⟩
      have onceMore : ((before ++ [clause]).map Clause.name?).Nodup := by
        rw [List.map_append]
        exact List.nodup_append.mpr ⟨once, List.nodup_singleton _, fun name isOld other isAdded =>
          fun same => isNew (List.mem_singleton.mp isAdded ▸ same ▸ isOld)⟩
      rcases inductionHypothesis onceMore with ⟨onceAll, clauses, rfl, tail⟩
      refine ⟨onceAll, clause :: clauses, List.append_assoc _ _ _, ?_⟩
      have whole := SpellsClauses.cons spelled tail
      rw [kindsOf, List.map_cons, List.map_append]
      exact whole

/-- Clauses that are spelled and have new names are read. -/
theorem completed_complete {before clauses : List Clause} {tokens : List Token}
    (spelled : SpellsClauses (kindsOf tokens) clauses)
    (once : ((before ++ clauses).map Clause.name?).Nodup) :
    Reader.Completed addClause before tokens (before ++ clauses) := by
  generalize whole : kindsOf tokens = kinds at spelled
  induction spelled generalizing before tokens with
  | nil =>
      rw [List.map_eq_nil_iff.mp whole, List.append_nil]
      exact .stop
  | @cons front rest clause clauses head tail inductionHypothesis =>
      rcases List.map_eq_append_iff.mp whole with ⟨frontTokens, restTokens, rfl, rfl, rfl⟩
      cases frontTokens with
      | nil =>
          rcases head.nonempty with ⟨kind, kinds, impossible, -, -⟩
          cases impossible
      | cons token following =>
          have isNew : clause.name? ∉ before.map Clause.name? := by
            rw [List.map_append] at once
            intro isOld
            exact (List.nodup_append.mp once).2.2 _ isOld _ List.mem_cons_self rfl
          have success := addClause_complete head isNew (noContinuation_clauses tail)
          have added : before ++ clause :: clauses = before ++ [clause] ++ clauses :=
            (List.append_assoc before [clause] clauses).symm
          rw [added] at once ⊢
          exact .step success (inductionHypothesis once rfl)

theorem readClauses_eq_ok_iff {tokens : List Token} {clauses : List Clause} :
    readClauses tokens = .ok clauses ↔
      SpellsClauses (kindsOf tokens) clauses ∧ (clauses.map Clause.name?).Nodup := by
  rw [readClauses, Reader.untilEnd_eq_ok_iff]
  constructor
  · intro completed
    rcases completed_sound completed List.nodup_nil with ⟨once, found, rfl, spelled⟩
    exact ⟨spelled, once⟩
  · rintro ⟨spelled, once⟩
    exact completed_complete spelled once

/-! ## What the clauses say -/

/-- Where no two clauses have one name, what they say is what is found first. -/
theorem says_iff {α : Type} {clauses : List Clause} (once : (clauses.map Clause.name?).Nodup)
    (clause : α → Clause) (content? : Clause → Option α) (name : Option ClauseName)
    (holds : ∀ given value, content? given = some value ↔ given = clause value)
    (named : ∀ value, (clause value).name? = name) {value? : Option α} :
    Says clauses clause value? ↔ value? = clauses.findSome? content? := by
  have found {value : α} (first : clauses.findSome? content? = some value) :
      clause value ∈ clauses := by
    rcases List.exists_of_findSome?_eq_some first with ⟨given, member, content⟩
    rw [← (holds given value).mp content]
    exact member
  cases value? with
  | none =>
      constructor
      · intro absent
        symm
        rw [List.findSome?_eq_none_iff]
        intro given member
        cases content : content? given with
        | none => rfl
        | some value => exact absurd ((holds given value).mp content ▸ member) (absent value)
      · intro nothing value member
        have content := List.findSome?_eq_none_iff.mp nothing.symm _ member
        rw [(holds _ value).mpr rfl] at content
        cases content
  | some value =>
      constructor
      · intro member
        cases first : clauses.findSome? content? with
        | none =>
            have content := List.findSome?_eq_none_iff.mp first _ member
            rw [(holds _ value).mpr rfl] at content
            cases content
        | some other =>
            have same := List.inj_on_of_nodup_map once member (found first)
              ((named value).trans (named other).symm)
            have content := (holds (clause other) other).mpr rfl
            rw [← same, (holds (clause value) value).mpr rfl] at content
            exact content
      · intro first
        exact found first.symm

/-- The description of clauses with different names is the query that is made of them. -/
theorem describes_iff {clauses : List Clause} (once : (clauses.map Clause.name?).Nodup)
    {query : Query} : Describes clauses query ↔ query = ofClauses clauses := by
  have chain {chain? : Option (List Link)} :
      Says clauses .filter chain? ↔ chain? = clauses.findSome? Clause.chain? :=
    says_iff once .filter Clause.chain? none
      (fun given value => by cases given <;> simp [Clause.chain?]) fun _ => rfl
  have groupBy {keys? : Option (List GroupKey)} :
      Says clauses .groupBy keys? ↔ keys? = clauses.findSome? Clause.keys? :=
    says_iff once .groupBy Clause.keys? (some .groupBy)
      (fun given value => by cases given <;> simp [Clause.keys?]) fun _ => rfl
  have selector {values? : Option (List String)} :
      Says clauses .group values? ↔ values? = clauses.findSome? Clause.values? :=
    says_iff once .group Clause.values? (some .group)
      (fun given value => by cases given <;> simp [Clause.values?]) fun _ => rfl
  have offset {offset? : Option Int} :
      Says clauses .offset offset? ↔ offset? = clauses.findSome? Clause.offset? :=
    says_iff once .offset Clause.offset? (some .offset)
      (fun given value => by cases given <;> simp [Clause.offset?]) fun _ => rfl
  have limit {limit? : Option Int} :
      Says clauses .limit limit? ↔ limit? = clauses.findSome? Clause.limit? :=
    says_iff once .limit Clause.limit? (some .limit)
      (fun given value => by cases given <;> simp [Clause.limit?]) fun _ => rfl
  have startDate {date? : Option Timestamp} :
      Says clauses .startDate date? ↔ date? = clauses.findSome? Clause.startDate? :=
    says_iff once .startDate Clause.startDate? (some .startDate)
      (fun given value => by cases given <;> simp [Clause.startDate?]) fun _ => rfl
  have endDate {date? : Option Timestamp} :
      Says clauses .endDate date? ↔ date? = clauses.findSome? Clause.endDate? :=
    says_iff once .endDate Clause.endDate? (some .endDate)
      (fun given value => by cases given <;> simp [Clause.endDate?]) fun _ => rfl
  constructor
  · intro described
    rcases described.chain with ⟨chain?, saysChain, isChain⟩
    rcases described.offset with ⟨offset?, saysOffset, isOffset⟩
    rcases described.limit with ⟨limit?, saysLimit, isLimit⟩
    cases query
    simp only [ofClauses, Query.mk.injEq]
    exact ⟨isChain.trans (by rw [chain.mp saysChain]), groupBy.mp described.groupBy,
      selector.mp described.selector, isOffset.trans (by rw [offset.mp saysOffset]),
      isLimit.trans (by rw [limit.mp saysLimit]), startDate.mp described.startDate,
      endDate.mp described.endDate⟩
  · rintro rfl
    exact ⟨⟨_, chain.mpr rfl, rfl⟩, groupBy.mpr rfl, selector.mpr rfl, ⟨_, offset.mpr rfl, rfl⟩,
      ⟨_, limit.mpr rfl, rfl⟩, startDate.mpr rfl, endDate.mpr rfl⟩

/-- A selector has keys to select by, or there is no selector. -/
theorem finish_eq_ok_iff {clauses : List Clause} {query : Query} :
    finish clauses = .ok query ↔
      (some .group ∈ clauses.map Clause.name? → some .groupBy ∈ clauses.map Clause.name?) ∧
        query = ofClauses clauses := by
  have selected : (ofClauses clauses).selector.isSome = true ↔
      some .group ∈ clauses.map Clause.name? := by
    have isGroup (clause : Clause) : clause.values?.isSome = true ↔
        clause.name? = some .group := by
      cases clause <;> simp [Clause.values?, Clause.name?]
    simp only [ofClauses, List.isSome_findSome?, List.any_eq_true, isGroup, List.mem_map]
  have grouped : (ofClauses clauses).groupBy.isSome = true ↔
      some .groupBy ∈ clauses.map Clause.name? := by
    have isGroupBy (clause : Clause) : clause.keys?.isSome = true ↔
        clause.name? = some .groupBy := by
      cases clause <;> simp [Clause.keys?, Clause.name?]
    simp only [ofClauses, List.isSome_findSome?, List.any_eq_true, isGroupBy, List.mem_map]
  rw [← selected, ← grouped]
  simp only [finish]
  split
  · rename_i refused
    rcases refused with ⟨hasSelector, noKeys⟩
    constructor
    · nofun
    · rintro ⟨grouped, -⟩
      rw [← Option.not_isSome, grouped hasSelector] at noKeys
      cases noKeys
  · rename_i allowed
    constructor
    · intro success
      cases success
      refine ⟨fun hasSelector => ?_, rfl⟩
      cases keys : (ofClauses clauses).groupBy with
      | none =>
          rw [keys] at allowed
          exact absurd ⟨hasSelector, rfl⟩ allowed
      | some found => rfl
    · rintro ⟨-, rfl⟩
      rfl

/-- Tokens are read as a query if and only if their kinds spell it. -/
theorem reads_exactly_grammar (tokens : List Token) (query : Query) :
    ofTokens tokens = .ok query ↔ Spells (tokens.map Token.kind) query := by
  constructor
  · intro success
    rw [ofTokens] at success
    split at success
    · cases success
    · rename_i clauses read
      rcases readClauses_eq_ok_iff.mp read with ⟨spelled, once⟩
      rcases finish_eq_ok_iff.mp success with ⟨grouped, same⟩
      exact ⟨clauses, spelled, ⟨once, grouped⟩, (describes_iff once).mpr same⟩
  · rintro ⟨clauses, spelled, compatible, described⟩
    rw [ofTokens, readClauses_eq_ok_iff.mpr ⟨spelled, compatible.once⟩]
    exact finish_eq_ok_iff.mpr ⟨compatible.grouped, (describes_iff compatible.once).mp described⟩

end Query
end TestQuery
