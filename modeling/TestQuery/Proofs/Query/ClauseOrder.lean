import TestQuery.Proofs.Query.Sentence
import Mathlib.Data.List.Perm.Basic

namespace TestQuery
namespace Query

/-!
# The order of clauses

Clauses stand one after another with nothing between them.  Still their tokens belong to
one row of clauses only: the tag at the end of a filter could go on with a comparison,
and the filter with a further link, but no clause begins with either.  So the clauses can
be told apart, whatever their order, and since a query is what its clauses say, their
order does not matter to it.
-/

/-! ## Telling clauses apart -/

/-- The tokens of clauses begin with those of the first one, and these are what a step of
the reading takes. -/
theorem SpellsClauses.uncons {tokens : List Token} {clause : Clause} {clauses : List Clause}
    (spelled : SpellsClauses (kindsOf tokens) (clause :: clauses)) :
    ∃ token following rest, tokens = token :: following ∧
      (addClause [] token).run following = .ok ([clause], rest) ∧
      SpellsClauses (kindsOf rest) clauses := by
  generalize whole : kindsOf tokens = kinds at spelled
  cases spelled with
  | cons head tail =>
      rcases List.map_eq_append_iff.mp whole with ⟨front, rest, rfl, rfl, rfl⟩
      cases front with
      | nil =>
          rcases head.nonempty with ⟨kind, kinds, impossible, -, -⟩
          cases impossible
      | cons token following =>
          have isNew : clause.name? ∉ List.map Clause.name? [] := List.not_mem_nil
          have taken := addClause_complete head isNew (noContinuation_clauses tail)
          exact ⟨token, following ++ rest, rest, rfl, taken, tail⟩

theorem SpellsClauses.eq_nil {tokens : List Token} (spelled : SpellsClauses (kindsOf tokens) []) :
    tokens = [] := by
  generalize whole : kindsOf tokens = kinds at spelled
  cases spelled
  exact List.map_eq_nil_iff.mp whole

/-- Tokens spell one row of clauses at most. -/
theorem SpellsClauses.unique {tokens : List Token} {clauses others : List Clause}
    (spelled : SpellsClauses (kindsOf tokens) clauses)
    (otherwise : SpellsClauses (kindsOf tokens) others) : clauses = others := by
  induction clauses generalizing tokens others with
  | nil =>
      cases spelled.eq_nil
      cases others with
      | nil => rfl
      | cons other others =>
          rcases otherwise.uncons with ⟨token, following, rest, impossible, -⟩
          cases impossible
  | cons clause clauses inductionHypothesis =>
      rcases spelled.uncons with ⟨token, following, rest, rfl, taken, tail⟩
      cases others with
      | nil => cases otherwise.eq_nil
      | cons other others =>
          rcases otherwise.uncons with ⟨_, _, otherRest, same, otherTaken, otherTail⟩
          cases same
          cases taken.symm.trans otherTaken
          rw [inductionHypothesis tail otherTail]

/-- The tokens of clauses are read if and only if the clauses may stand together. -/
theorem ofTokens_eq_ok_iff {tokens : List Token} {clauses : List Clause}
    (spelled : SpellsClauses (kindsOf tokens) clauses) (query : Query) :
    ofTokens tokens = .ok query ↔ Compatible clauses ∧ Describes clauses query := by
  rw [ofTokens]
  constructor
  · intro success
    split at success
    · cases success
    · rename_i found read
      rcases readClauses_eq_ok_iff.mp read with ⟨otherwise, once⟩
      cases spelled.unique otherwise
      rcases finish_eq_ok_iff.mp success with ⟨grouped, same⟩
      exact ⟨⟨once, grouped⟩, (describes_iff once).mpr same⟩
  · rintro ⟨compatible, described⟩
    rw [readClauses_eq_ok_iff.mpr ⟨spelled, compatible.once⟩]
    exact finish_eq_ok_iff.mpr ⟨compatible.grouped, (describes_iff compatible.once).mp described⟩

/-- Segments that spell a clause each spell the clauses one after another. -/
theorem spellsClauses_flatten {segments : List (List Token)} {clauses : List Clause}
    (spelled : List.Forall₂ (fun segment clause => SpellsClause (segment.map Token.kind) clause)
      segments clauses) :
    SpellsClauses (kindsOf segments.flatten) clauses := by
  induction spelled with
  | nil => exact .nil
  | cons head tail inductionHypothesis =>
      have whole := SpellsClauses.cons head inductionHypothesis
      rw [List.flatten_cons, kindsOf, List.map_append]
      exact whole

/-! ## What clauses say in any order -/

section

variable {clauses others : List Clause} (permutes : clauses.Perm others)

include permutes

theorem Compatible.perm (compatible : Compatible clauses) : Compatible others where
  once := (permutes.map Clause.name?).nodup_iff.mp compatible.once
  grouped pinned := by
    have names {name : Option ClauseName} :
        name ∈ clauses.map Clause.name? ↔ name ∈ others.map Clause.name? :=
      (permutes.map Clause.name?).mem_iff
    exact names.mp (compatible.grouped (names.mpr pinned))

theorem Says.perm {α : Type} {clause : α → Clause} {content : Option α}
    (said : Says clauses clause content) : Says others clause content := by
  cases content with
  | none => exact fun value member => said value (permutes.mem_iff.mpr member)
  | some value => exact permutes.mem_iff.mp said

theorem Describes.perm {query : Query} (described : Describes clauses query) :
    Describes others query where
  chain := described.chain.imp fun _ said => ⟨said.1.perm permutes, said.2⟩
  groupBy := described.groupBy.perm permutes
  selector := described.selector.perm permutes
  offset := described.offset.imp fun _ said => ⟨said.1.perm permutes, said.2⟩
  limit := described.limit.imp fun _ said => ⟨said.1.perm permutes, said.2⟩
  startDate := described.startDate.perm permutes
  endDate := described.endDate.perm permutes

end

/-- Clauses in another order are read as the same query, or neither order is read.  The
former is the case if and only if the clauses may stand together. -/
theorem clause_order_irrelevant {segments permuted : List (List Token)} {clauses : List Clause}
    (spelled : List.Forall₂ (fun segment clause => SpellsClause (segment.map Token.kind) clause)
      segments clauses)
    (permutes : segments.Perm permuted) :
    (Compatible clauses ∧ ∃ query, Describes clauses query ∧
        ofTokens segments.flatten = .ok query ∧ ofTokens permuted.flatten = .ok query) ∨
      (¬ Compatible clauses ∧ ∃ error other,
        ofTokens segments.flatten = .error error ∧ ofTokens permuted.flatten = .error other) := by
  rcases List.perm_comp_forall₂ permutes.symm spelled with ⟨others, otherwise, reordered⟩
  have read := ofTokens_eq_ok_iff (spellsClauses_flatten spelled)
  have readPermuted := ofTokens_eq_ok_iff (spellsClauses_flatten otherwise)
  by_cases compatible : Compatible clauses
  · have described : Describes clauses (ofClauses clauses) :=
      (describes_iff compatible.once).mpr rfl
    refine .inl ⟨compatible, ofClauses clauses, described,
      (read _).mpr ⟨compatible, described⟩, ?_⟩
    exact (readPermuted _).mpr
      ⟨compatible.perm reordered.symm, described.perm reordered.symm⟩
  · refine .inr ⟨compatible, ?_⟩
    cases outcome : ofTokens segments.flatten with
    | ok query => exact absurd ((read _).mp outcome).1 compatible
    | error error =>
        cases otherOutcome : ofTokens permuted.flatten with
        | ok query => exact absurd (((readPermuted _).mp otherOutcome).1.perm reordered) compatible
        | error other => exact ⟨error, other, rfl, rfl⟩

/-- Tokens that could stand anywhere. -/
def placeless (kinds : List TokenKind) : List Token :=
  kinds.map fun kind => ⟨kind, ⟨0, 0⟩⟩

/-- A selector before the filter and the keys that it selects by, and a page size. -/
def scatteredSegments : List (List Token) :=
  [placeless [.keyword .group, .equal, .leftParen, .string "linux", .rightParen],
    placeless [.hash, .string "slow", .keyword .or, .bang, .hash, .string "os"],
    placeless [.keyword .groupBy, .leftParen, .hash, .string "os", .rightParen],
    placeless [.keyword .limit, .equal, .number 5]]

/-- What the segments say. -/
def scatteredClauses : List Clause :=
  [.group ["linux"],
    .filter [⟨.and, some (.tagged .equal "slow")⟩, ⟨.or, some (.tagged .notEqual "os")⟩],
    .groupBy [.tag "os"],
    .limit 5]

theorem scattered_spelled :
    List.Forall₂ (fun segment clause => SpellsClause (segment.map Token.kind) clause)
      scatteredSegments scatteredClauses := by
  have slow : SpellsPredicate [.hash, .string "slow"] (.tagged .equal "slow") :=
    .tagged (by decide)
  have noSystem : SpellsPredicate [.bang, .hash, .string "os"] (.tagged .notEqual "os") :=
    .untagged (by decide)
  refine .cons (.group (.last (.text "linux"))) (.cons ?_ (.cons ?_ (.cons (.limit 5) .nil)))
  · exact .filter slow (.cons .or noSystem .nil)
  · exact .groupBy (.last (.tag (by decide)))

/-- The other way round, the filter ends with a tag right before the selector. -/
theorem clause_order_irrelevant_scattered :
    scatteredSegments.Perm scatteredSegments.reverse ∧
      ∃ query, query.selector = some ["linux"] ∧
        ofTokens scatteredSegments.flatten = .ok query ∧
        ofTokens scatteredSegments.reverse.flatten = .ok query := by
  have permutes := (List.reverse_perm scatteredSegments).symm
  have compatible : Compatible scatteredClauses := ⟨by decide, by decide⟩
  rcases clause_order_irrelevant scattered_spelled permutes with
    ⟨-, query, described, read, readReversed⟩ | ⟨impossible, -⟩
  · refine ⟨permutes, query, ?_, read, readReversed⟩
    rw [(describes_iff compatible.once).mp described]
    rfl
  · exact absurd compatible impossible

end Query
end TestQuery
