import TestQuery.Proofs.Query.Sentence
import TestQuery.Proofs.Query.Spelling

namespace TestQuery
namespace Query

/-!
# What a text can say

A query that was read is well formed.  No text holds a quote inside a string, an empty
tag, a list without items, or a number out of range; and a chain that was read has a
predicate in every link, the first of them joined to nothing.  The rest of a query is
free.

The argument follows the grammar: where tokens that can be written spell a phrase, what
the phrase means is expressible.
-/

/-! ## Well-formed queries -/

/-- The name can follow the mark of a tag. -/
def TagName (name : String) : Prop :=
  name ≠ "" ∧ Unquoted name

/-- The texts of a predicate can be written.  Ids and statuses always can. -/
def PredicateExpressible : Predicate → Prop
  | .session _ _ | .testcase _ _ | .status _ _ => True
  | .text _ _ value => Unquoted value
  | .tagged _ tag => TagName tag
  | .taggedWith _ tag value => TagName tag ∧ Unquoted value

/-- The tag of a key can be written. -/
def KeyExpressible : GroupKey → Prop
  | .session => True
  | .tag name => TagName name

/-- A chain of predicates, the first of them joined to nothing. -/
structure ChainExpressible (chain : List Link) : Prop where
  first : ∃ link ∈ chain.head?, link.connective = .and
  links : ∀ link ∈ chain, ∃ predicate, link.predicate = some predicate ∧
    PredicateExpressible predicate

/-- The fields name a second of the calendar in the years that four digits can name. -/
def MomentExpressible (moment : Timestamp) : Prop :=
  Timestamp.Valid moment.year moment.month moment.day moment.hour moment.minute moment.second

/-- A query that can be written down.  The condition on dates is met by every
timestamp. -/
structure WellFormed (query : Query) : Prop where
  chain : query.chain = [⟨.and, none⟩] ∨ ChainExpressible query.chain
  groupBy : ∀ keys ∈ query.groupBy, keys ≠ [] ∧ ∀ key ∈ keys, KeyExpressible key
  selector : ∀ values ∈ query.selector,
    values ≠ [] ∧ query.groupBy.isSome = true ∧ ∀ value ∈ values, Unquoted value
  offset : InRange query.offset
  limit : InRange query.limit
  startDate : ∀ moment ∈ query.startDate, MomentExpressible moment
  endDate : ∀ moment ∈ query.endDate, MomentExpressible moment

/-- What a clause says can be written. -/
def ClauseExpressible : Clause → Prop
  | .filter chain => ChainExpressible chain
  | .groupBy keys => keys ≠ [] ∧ ∀ key ∈ keys, KeyExpressible key
  | .group values => values ≠ [] ∧ ∀ value ∈ values, Unquoted value
  | .offset value | .limit value => InRange value
  | .startDate moment | .endDate moment => MomentExpressible moment

/-! ## What is spelled is expressible -/

theorem expressible_of_predicate {kinds : List TokenKind} {result : Predicate}
    (spelled : SpellsPredicate kinds result) (writable : ∀ kind ∈ kinds, kind.Writable) :
    PredicateExpressible result := by
  cases spelled with
  | session => trivial
  | testcase => trivial
  | status => trivial
  | text field comparison value => exact writable (.string value) (by simp)
  | @tagged tag named => exact ⟨named, writable (.string tag) (by simp)⟩
  | @untagged tag named => exact ⟨named, writable (.string tag) (by simp)⟩
  | @taggedWith tag named comparison value =>
      exact ⟨⟨named, writable (.string tag) (by simp)⟩, writable (.string value) (by simp)⟩

theorem expressible_of_links {kinds : List TokenKind} {links : List Link}
    (spelled : SpellsLinks kinds links) (writable : ∀ kind ∈ kinds, kind.Writable) :
    ∀ link ∈ links, ∃ predicate, link.predicate = some predicate ∧
      PredicateExpressible predicate := by
  induction spelled with
  | nil => nofun
  | @cons connective front rest next links head tail inductionHypothesis =>
      intro link member
      rcases List.mem_cons.mp member with rfl | later
      · refine ⟨next, rfl, expressible_of_predicate head fun kind isKind => ?_⟩
        exact writable kind (List.mem_cons_of_mem _ (List.mem_append_left _ isKind))
      · refine inductionHypothesis (fun kind isKind => ?_) link later
        exact writable kind (List.mem_cons_of_mem _ (List.mem_append_right _ isKind))

theorem expressible_of_key {kinds : List TokenKind} {key : GroupKey}
    (spelled : SpellsKey kinds key) (writable : ∀ kind ∈ kinds, kind.Writable) :
    KeyExpressible key := by
  cases spelled with
  | session => trivial
  | @tag tag named => exact ⟨named, writable (.string tag) (by simp)⟩

theorem expressible_of_text {kinds : List TokenKind} {value : String}
    (spelled : SpellsText kinds value) (writable : ∀ kind ∈ kinds, kind.Writable) :
    Unquoted value := by
  cases spelled
  exact writable (.string value) List.mem_cons_self

/-- A list has items, and each of them is expressible if its tokens can be written. -/
theorem expressible_of_list {α : Type} {item : List TokenKind → α → Prop} {expressible : α → Prop}
    {kinds : List TokenKind} {values : List α} (spelled : SpellsList item kinds values)
    (each : ∀ kinds value, item kinds value → (∀ kind ∈ kinds, kind.Writable) →
      expressible value)
    (writable : ∀ kind ∈ kinds, kind.Writable) :
    values ≠ [] ∧ ∀ value ∈ values, expressible value := by
  induction spelled with
  | last spelled =>
      refine ⟨List.cons_ne_nil _ _, fun value member => ?_⟩
      rw [List.mem_singleton.mp member]
      exact each _ _ spelled writable
  | more spelled tail inductionHypothesis =>
      have others := inductionHypothesis fun kind isKind =>
        writable kind (List.mem_append_right _ (List.mem_cons_of_mem _ isKind))
      refine ⟨List.cons_ne_nil _ _, fun value member => ?_⟩
      rcases List.mem_cons.mp member with rfl | later
      · exact each _ _ spelled fun kind isKind => writable kind (List.mem_append_left _ isKind)
      · exact others.2 value later

theorem expressible_of_clause {kinds : List TokenKind} {clause : Clause}
    (spelled : SpellsClause kinds clause) (writable : ∀ kind ∈ kinds, kind.Writable) :
    ClauseExpressible clause := by
  cases spelled with
  | @filter front rest head links first others =>
      refine ⟨⟨_, rfl, rfl⟩, fun link member => ?_⟩
      rcases List.mem_cons.mp member with rfl | later
      · exact ⟨head, rfl, expressible_of_predicate first fun kind isKind =>
          writable kind (List.mem_append_left _ isKind)⟩
      · exact expressible_of_links others
          (fun kind isKind => writable kind (List.mem_append_right _ isKind)) link later
  | groupBy listed =>
      refine expressible_of_list listed (fun _ _ => expressible_of_key) fun kind isKind => ?_
      exact writable kind (by simp [isKind])
  | group listed =>
      refine expressible_of_list listed (fun _ _ => expressible_of_text) fun kind isKind => ?_
      exact writable kind (by simp [isKind])
  | offset value => exact writable (.number value) (by simp)
  | limit value => exact writable (.number value) (by simp)
  | startDate moment => exact moment.valid
  | endDate moment => exact moment.valid

theorem expressible_of_clauses {kinds : List TokenKind} {clauses : List Clause}
    (spelled : SpellsClauses kinds clauses) (writable : ∀ kind ∈ kinds, kind.Writable) :
    ∀ clause ∈ clauses, ClauseExpressible clause := by
  induction spelled with
  | nil => nofun
  | cons head tail inductionHypothesis =>
      intro clause member
      rcases List.mem_cons.mp member with rfl | later
      · exact expressible_of_clause head fun kind isKind =>
          writable kind (List.mem_append_left _ isKind)
      · exact inductionHypothesis
          (fun kind isKind => writable kind (List.mem_append_right _ isKind)) clause later

/-- Expressible clauses that stand together describe a well-formed query. -/
theorem wellFormed_of_describes {clauses : List Clause} {query : Query}
    (expressible : ∀ clause ∈ clauses, ClauseExpressible clause) (compatible : Compatible clauses)
    (described : Describes clauses query) : WellFormed query := by
  have zero : InRange 0 := ⟨Int.le_refl 0, Int.natCast_nonneg maxNumber⟩
  have said {α : Type} {clause : α → Clause} {value? : Option α}
      (statement : Says clauses clause value?) {value : α} (given : value ∈ value?) :
      clause value ∈ clauses := by
    cases given
    exact statement
  constructor
  · obtain ⟨chain?, statement, isChain⟩ := described.chain
    cases chain? with
    | none => exact .inl isChain
    | some chain => exact .inr (isChain ▸ expressible _ (said statement rfl))
  · intro keys given
    exact expressible _ (said described.groupBy given)
  · intro values given
    have member := said described.selector given
    obtain ⟨nonempty, unquoted⟩ := expressible _ member
    refine ⟨nonempty, ?_, unquoted⟩
    obtain ⟨clause, present, named⟩ := List.mem_map.mp
      (compatible.grouped (List.mem_map.mpr ⟨_, member, rfl⟩))
    have grouped := described.groupBy
    cases isGroupBy : query.groupBy with
    | some keys => rfl
    | none =>
        rw [isGroupBy] at grouped
        cases clause with
        | groupBy keys => exact absurd present (grouped keys)
        | _ => cases named
  · obtain ⟨offset?, statement, isOffset⟩ := described.offset
    cases offset? with
    | none => exact isOffset ▸ zero
    | some offset => exact isOffset ▸ expressible _ (said statement rfl)
  · obtain ⟨limit?, statement, isLimit⟩ := described.limit
    cases limit? with
    | none => exact isLimit ▸ zero
    | some limit => exact isLimit ▸ expressible _ (said statement rfl)
  · intro moment given
    exact expressible _ (said described.startDate given)
  · intro moment given
    exact expressible _ (said described.endDate given)

/-- Every query that is read is well formed. -/
theorem wellFormed_of_read {text : String} {query : Query} (success : read text = .ok query) :
    WellFormed query := by
  rw [read] at success
  split at success
  · cases success
  · rename_i tokens tokenized
    rw [ofTokens] at success
    split at success
    · cases success
    · rename_i clauses clausesRead
      obtain ⟨spelled, once⟩ := readClauses_eq_ok_iff.mp clausesRead
      obtain ⟨grouped, same⟩ := finish_eq_ok_iff.mp success
      exact wellFormed_of_describes
        (expressible_of_clauses spelled (writable_of_tokenize tokenized)) ⟨once, grouped⟩
        ((describes_iff once).mpr same)

end Query
end TestQuery
