import TestQuery.Proofs.Query.Expressible
import TestQuery.Proofs.Uuid

namespace TestQuery
namespace Query

open Text

/-!
# Writing a query

Every well-formed query has a text, and the text is read as that query.  The clauses of
a query stand in fixed places, those that would say what holds anyway left out; what a
clause says is written with the tokens that the grammar asks for, one blank between
each and the next.
-/

/-! ## The tokens of a query -/

def predicateKinds : Predicate → List TokenKind
  | .session comparison id =>
    [.keyword .sessionId, comparisonKind comparison, .string id.toString]
  | .testcase comparison id => [.keyword .id, comparisonKind comparison, .string id.toString]
  | .text field comparison value =>
    [.keyword (fieldWord field), comparisonKind comparison, .string value]
  | .status comparison outcome =>
    [.keyword .status, comparisonKind comparison, .string outcome.name]
  | .tagged .equal tag => [.hash, .string tag]
  | .tagged .notEqual tag => [.bang, .hash, .string tag]
  | .taggedWith comparison tag value =>
    [.hash, .string tag, comparisonKind comparison, .string value]

def linkKinds (links : List Link) : List TokenKind :=
  links.flatMap fun link =>
    connectiveKind link.connective :: link.predicate.toList.flatMap predicateKinds

/-- The tokens of a chain.  The connective of the first link is not written. -/
def chainKinds : List Link → List TokenKind
  | [] => []
  | first :: others => first.predicate.toList.flatMap predicateKinds ++ linkKinds others

def keyKinds : GroupKey → List TokenKind
  | .session => [.keyword .sessionId]
  | .tag name => [.hash, .string name]

def listKinds {α : Type} (itemKinds : α → List TokenKind) : List α → List TokenKind
  | [] => []
  | [last] => itemKinds last
  | first :: others => itemKinds first ++ .comma :: listKinds itemKinds others

def clauseKinds : Clause → List TokenKind
  | .filter chain => chainKinds chain
  | .groupBy keys =>
    .keyword .groupBy :: .leftParen :: (listKinds keyKinds keys ++ [.rightParen])
  | .group values =>
    .keyword .group :: .equal :: .leftParen ::
      (listKinds (fun value => [.string value]) values ++ [.rightParen])
  | .offset value => [.keyword .offset, .equal, .number value]
  | .limit value => [.keyword .limit, .equal, .number value]
  | .startDate moment => [.keyword .startDate, .equal, .string (moment.render .query)]
  | .endDate moment => [.keyword .endDate, .equal, .string (moment.render .query)]

/-- The value, unless it is the one that holds where nothing is said. -/
def unusual? {α : Type} [DecidableEq α] (usual value : α) : Option α :=
  if value = usual then none else some value

/-- The clauses of a query, each in its place. -/
def places (query : Query) : List (Option Clause) :=
  [(unusual? [⟨.and, none⟩] query.chain).map .filter, query.groupBy.map .groupBy,
    query.selector.map .group, (unusual? 0 query.offset).map .offset,
    (unusual? 0 query.limit).map .limit, query.startDate.map .startDate,
    query.endDate.map .endDate]

def clausesOf (query : Query) : List Clause :=
  query.places.filterMap id

def write (query : Query) : String :=
  String.ofList (writtenKinds ((clausesOf query).flatMap clauseKinds))

/-! ## What is expressible is spelled -/

/-- The tokens spell the value and can be written down. -/
structure WrittenAs {α : Type} (phrase : List TokenKind → α → Prop) (kinds : List TokenKind)
    (value : α) : Prop where
  spells : phrase kinds value
  writable : ∀ kind ∈ kinds, kind.Writable

theorem unquoted_uuid (id : Uuid) : Unquoted id.toString := by
  intro quote
  rcases Uuid.mem_toString quote with digit | hyphen
  · cases digit
  · cases hyphen

theorem unquoted_status (outcome : Status) : Unquoted outcome.name := by
  unfold Unquoted
  cases outcome <;> decide

theorem unquoted_moment (moment : Timestamp) : Unquoted (moment.render .query) := by
  have noDigit (width value : Nat) : '"' ∉ paddedDigits width value := by
    intro quote
    cases isDigit_paddedDigits width value '"' quote
  rw [Unquoted, Timestamp.render, String.toList_ofList, Timestamp.written]
  simp [noDigit, Timestamp.Marks.query]

theorem predicate_writtenAs {predicate : Predicate} (expressible : PredicateExpressible predicate) :
    WrittenAs SpellsPredicate (predicateKinds predicate) predicate := by
  cases predicate with
  | session comparison id =>
      refine ⟨.session comparison id.ofText?_toString, ?_⟩
      cases comparison <;>
        simp [predicateKinds, comparisonKind, TokenKind.Writable, unquoted_uuid id]
  | testcase comparison id =>
      refine ⟨.testcase comparison id.ofText?_toString, ?_⟩
      cases comparison <;>
        simp [predicateKinds, comparisonKind, TokenKind.Writable, unquoted_uuid id]
  | text field comparison value =>
      have unquoted : Unquoted value := expressible
      refine ⟨.text field comparison value, ?_⟩
      cases comparison <;>
        simp [predicateKinds, comparisonKind, TokenKind.Writable, unquoted]
  | status comparison outcome =>
      refine ⟨.status comparison outcome, ?_⟩
      cases comparison <;>
        simp [predicateKinds, comparisonKind, TokenKind.Writable, unquoted_status outcome]
  | tagged comparison tag =>
      obtain ⟨named, unquoted⟩ := expressible
      cases comparison with
      | equal => exact ⟨.tagged named, by simp [predicateKinds, TokenKind.Writable, unquoted]⟩
      | notEqual => exact ⟨.untagged named, by simp [predicateKinds, TokenKind.Writable, unquoted]⟩
  | taggedWith comparison tag value =>
      obtain ⟨⟨named, unquotedTag⟩, unquoted⟩ := expressible
      refine ⟨.taggedWith named comparison value, ?_⟩
      cases comparison <;>
        simp [predicateKinds, comparisonKind, TokenKind.Writable, unquotedTag, unquoted]

theorem links_writtenAs {links : List Link} (expressible : ∀ link ∈ links,
      ∃ predicate, link.predicate = some predicate ∧ PredicateExpressible predicate) :
    WrittenAs SpellsLinks (linkKinds links) links := by
  induction links with
  | nil => exact ⟨.nil, nofun⟩
  | cons link links inductionHypothesis =>
      obtain ⟨connective, predicate?⟩ := link
      obtain ⟨predicate, rfl, known⟩ := expressible _ List.mem_cons_self
      have head := predicate_writtenAs known
      have tail := inductionHypothesis fun link member =>
        expressible link (List.mem_cons_of_mem _ member)
      have kinds : linkKinds (⟨connective, some predicate⟩ :: links) =
          connectiveKind connective :: (predicateKinds predicate ++ linkKinds links) := by
        simp [linkKinds]
      rw [kinds]
      refine ⟨.cons connective head.spells tail.spells, fun kind member => ?_⟩
      rcases List.mem_cons.mp member with rfl | member
      · cases connective <;> trivial
      · rcases List.mem_append.mp member with before | later
        · exact head.writable kind before
        · exact tail.writable kind later

theorem chain_writtenAs {chain : List Link} (expressible : ChainExpressible chain) :
    WrittenAs SpellsClause (chainKinds chain) (.filter chain) := by
  obtain ⟨link, isFirst, joinsNothing⟩ := expressible.first
  cases chain with
  | nil => cases isFirst
  | cons first others =>
      cases isFirst
      obtain ⟨connective, predicate?⟩ := link
      cases joinsNothing
      obtain ⟨predicate, rfl, known⟩ := expressible.links _ List.mem_cons_self
      have head := predicate_writtenAs known
      have tail := links_writtenAs fun link member =>
        expressible.links link (List.mem_cons_of_mem _ member)
      have kinds : chainKinds (⟨.and, some predicate⟩ :: others) =
          predicateKinds predicate ++ linkKinds others := by
        simp [chainKinds]
      rw [kinds]
      refine ⟨.filter head.spells tail.spells, fun kind member => ?_⟩
      rcases List.mem_append.mp member with before | later
      · exact head.writable kind before
      · exact tail.writable kind later

theorem key_writtenAs {key : GroupKey} (expressible : KeyExpressible key) :
    WrittenAs SpellsKey (keyKinds key) key := by
  cases key with
  | session => exact ⟨.session, by simp [keyKinds, TokenKind.Writable]⟩
  | tag name =>
      obtain ⟨named, unquoted⟩ := expressible
      exact ⟨.tag named, by simp [keyKinds, TokenKind.Writable, unquoted]⟩

theorem text_writtenAs {value : String} (unquoted : Unquoted value) :
    WrittenAs SpellsText [.string value] value :=
  ⟨.text value, by simp [TokenKind.Writable, unquoted]⟩

theorem list_writtenAs {α : Type} {item : List TokenKind → α → Prop}
    {itemKinds : α → List TokenKind} {values : List α} (nonempty : values ≠ [])
    (each : ∀ value ∈ values, WrittenAs item (itemKinds value) value) :
    WrittenAs (SpellsList item) (listKinds itemKinds values) values := by
  fun_induction listKinds itemKinds values with
  | case1 => exact absurd rfl nonempty
  | case2 last =>
      have only := each last List.mem_cons_self
      exact ⟨.last only.spells, only.writable⟩
  | case3 first others notAlone inductionHypothesis =>
      have head := each first List.mem_cons_self
      have tail := inductionHypothesis (fun none => notAlone (by rw [none]))
        fun value member => each value (List.mem_cons_of_mem _ member)
      refine ⟨.more head.spells tail.spells, fun kind member => ?_⟩
      rcases List.mem_append.mp member with before | member
      · exact head.writable kind before
      · rcases List.mem_cons.mp member with rfl | later
        · trivial
        · exact tail.writable kind later

theorem writable_enclosed {inner : List TokenKind} (writable : ∀ kind ∈ inner, kind.Writable) :
    ∀ kind ∈ .leftParen :: (inner ++ [.rightParen]), kind.Writable := by
  intro kind member
  simp only [List.mem_cons, List.mem_append, List.not_mem_nil, or_false] at member
  rcases member with rfl | inside | rfl
  · trivial
  · exact writable kind inside
  · trivial

theorem clause_writtenAs {clause : Clause} (expressible : ClauseExpressible clause) :
    WrittenAs SpellsClause (clauseKinds clause) clause := by
  cases clause with
  | filter chain => exact chain_writtenAs expressible
  | groupBy keys =>
      have listed := list_writtenAs expressible.1 fun key member =>
        key_writtenAs (expressible.2 key member)
      refine ⟨.groupBy listed.spells, List.forall_mem_cons.mpr ⟨trivial, ?_⟩⟩
      exact writable_enclosed listed.writable
  | group values =>
      have listed := list_writtenAs expressible.1 fun value member =>
        text_writtenAs (expressible.2 value member)
      refine ⟨.group listed.spells, List.forall_mem_cons.mpr ⟨trivial, ?_⟩⟩
      exact List.forall_mem_cons.mpr ⟨trivial, writable_enclosed listed.writable⟩
  | offset value =>
      have inRange : InRange value := expressible
      exact ⟨.offset value, by simp [clauseKinds, TokenKind.Writable, inRange]⟩
  | limit value =>
      have inRange : InRange value := expressible
      exact ⟨.limit value, by simp [clauseKinds, TokenKind.Writable, inRange]⟩
  | startDate moment =>
      exact ⟨.startDate moment, by simp [clauseKinds, TokenKind.Writable, unquoted_moment moment]⟩
  | endDate moment =>
      exact ⟨.endDate moment, by simp [clauseKinds, TokenKind.Writable, unquoted_moment moment]⟩

theorem clauses_writtenAs {clauses : List Clause}
    (expressible : ∀ clause ∈ clauses, ClauseExpressible clause) :
    WrittenAs SpellsClauses (clauses.flatMap clauseKinds) clauses := by
  induction clauses with
  | nil => exact ⟨.nil, nofun⟩
  | cons clause clauses inductionHypothesis =>
      have head := clause_writtenAs (expressible clause List.mem_cons_self)
      have tail := inductionHypothesis fun clause member =>
        expressible clause (List.mem_cons_of_mem _ member)
      rw [List.flatMap_cons]
      refine ⟨.cons head.spells tail.spells, fun kind member => ?_⟩
      rcases List.mem_append.mp member with before | later
      · exact head.writable kind before
      · exact tail.writable kind later

/-! ## The clauses of a query describe it -/

theorem getD_unusual? {α : Type} [DecidableEq α] (usual value : α) :
    (unusual? usual value).getD usual = value := by
  unfold unusual?
  split
  · rename_i same
    exact same.symm
  · rfl

theorem mem_unusual? {α : Type} [DecidableEq α] {usual value given : α} :
    given ∈ unusual? usual value ↔ value ≠ usual ∧ given = value := by
  unfold unusual?
  split <;> simp_all [eq_comm]

def placeNames : List (Option ClauseName) :=
  [none, some .groupBy, some .group, some .offset, some .limit, some .startDate, some .endDate]

theorem name_of_place (query : Query) :
    List.Forall₂ (fun place name => ∀ clause ∈ place, Clause.name? clause = name)
      query.places placeNames := by
  have named {α : Type} (value? : Option α) (build : α → Clause) {name : Option ClauseName}
      (isName : ∀ value, (build value).name? = name) :
      ∀ clause ∈ value?.map build, clause.name? = name := by
    rintro clause isClause
    obtain ⟨value, -, rfl⟩ := Option.map_eq_some_iff.mp isClause
    exact isName value
  simp only [places, placeNames, List.forall₂_cons, List.Forall₂.nil, and_true]
  refine ⟨?_, ?_, ?_, ?_, ?_, ?_, ?_⟩ <;> exact named _ _ fun _ => rfl

/-- The clauses that stand in places have the names of the places, in their order. -/
theorem sublist_of_places {places : List (Option Clause)} {names : List (Option ClauseName)}
    (named : List.Forall₂ (fun place name => ∀ clause ∈ place, Clause.name? clause = name)
      places names) : ((places.filterMap id).map Clause.name?).Sublist names := by
  induction named with
  | nil => exact .slnil
  | @cons place name places names isName named inductionHypothesis =>
      cases place with
      | none => exact inductionHypothesis.cons name
      | some clause =>
          rw [List.filterMap_cons_some (f := id) rfl, List.map_cons, isName clause rfl]
          exact inductionHypothesis.cons_cons name

theorem nodup_clausesOf (query : Query) : ((clausesOf query).map Clause.name?).Nodup :=
  (sublist_of_places (name_of_place query)).nodup (by decide)

/-- A clause stands among those of a query if and only if it is in its own place. -/
theorem mem_clausesOf {query : Query} {clause : Clause} :
    clause ∈ clausesOf query ↔
      match clause with
      | .filter chain => chain ∈ unusual? [⟨.and, none⟩] query.chain
      | .groupBy keys => keys ∈ query.groupBy
      | .group values => values ∈ query.selector
      | .offset value => value ∈ unusual? 0 query.offset
      | .limit value => value ∈ unusual? 0 query.limit
      | .startDate moment => moment ∈ query.startDate
      | .endDate moment => moment ∈ query.endDate := by
  cases clause <;> simp [clausesOf, places, @eq_comm _ (some _)]

theorem says_of_mem_iff {α : Type} {clauses : List Clause} {clause : α → Clause}
    {value? : Option α} (stated : ∀ value, clause value ∈ clauses ↔ value ∈ value?) :
    Says clauses clause value? := by
  cases value? with
  | none => exact fun value member => nomatch (stated value).mp member
  | some value => exact (stated value).mpr rfl

theorem describes_clausesOf (query : Query) : Describes (clausesOf query) query where
  chain := ⟨unusual? [⟨.and, none⟩] query.chain, says_of_mem_iff fun _ => mem_clausesOf,
    (getD_unusual? _ _).symm⟩
  groupBy := says_of_mem_iff fun _ => mem_clausesOf
  selector := says_of_mem_iff fun _ => mem_clausesOf
  offset := ⟨unusual? 0 query.offset, says_of_mem_iff fun _ => mem_clausesOf,
    (getD_unusual? _ _).symm⟩
  limit := ⟨unusual? 0 query.limit, says_of_mem_iff fun _ => mem_clausesOf,
    (getD_unusual? _ _).symm⟩
  startDate := says_of_mem_iff fun _ => mem_clausesOf
  endDate := says_of_mem_iff fun _ => mem_clausesOf

/-- Each clause of a well-formed query is expressible. -/
theorem WellFormed.clauses {query : Query} (wellFormed : WellFormed query) :
    ∀ clause ∈ clausesOf query, ClauseExpressible clause := by
  intro clause member
  have stated := mem_clausesOf.mp member
  cases clause with
  | filter chain =>
      obtain ⟨isUnusual, rfl⟩ := mem_unusual?.mp stated
      exact wellFormed.chain.resolve_left isUnusual
  | groupBy keys => exact wellFormed.groupBy keys stated
  | group values =>
      obtain ⟨nonempty, -, unquoted⟩ := wellFormed.selector values stated
      exact ⟨nonempty, unquoted⟩
  | offset value =>
      obtain ⟨-, rfl⟩ := mem_unusual?.mp stated
      exact wellFormed.offset
  | limit value =>
      obtain ⟨-, rfl⟩ := mem_unusual?.mp stated
      exact wellFormed.limit
  | startDate moment => exact wellFormed.startDate moment stated
  | endDate moment => exact wellFormed.endDate moment stated

/-- The selector of a well-formed query has keys to select by. -/
theorem WellFormed.grouped {query : Query} (wellFormed : WellFormed query)
    (selected : some .group ∈ (clausesOf query).map Clause.name?) :
    some .groupBy ∈ (clausesOf query).map Clause.name? := by
  obtain ⟨clause, member, named⟩ := List.mem_map.mp selected
  cases clause with
  | group values =>
      obtain ⟨-, grouped, -⟩ := wellFormed.selector values (mem_clausesOf.mp member)
      obtain ⟨keys, isGroupBy⟩ := Option.isSome_iff_exists.mp grouped
      exact List.mem_map.mpr ⟨.groupBy keys, mem_clausesOf.mpr isGroupBy, rfl⟩
  | _ => cases named

/-- A text with the tokens of a well-formed query is read as that query. -/
theorem read_of_tokens {query : Query} (wellFormed : WellFormed query) {text : String}
    {tokens : List Token} (tokenized : tokenize text = .ok tokens)
    (kinds : tokens.map Token.kind = (clausesOf query).flatMap clauseKinds) :
    read text = .ok query := by
  have written := clauses_writtenAs wellFormed.clauses
  have clausesRead : readClauses tokens = .ok (clausesOf query) := by
    rw [readClauses_eq_ok_iff, kindsOf, kinds]
    exact ⟨written.spells, nodup_clausesOf query⟩
  have finished : finish (clausesOf query) = .ok query :=
    finish_eq_ok_iff.mpr ⟨wellFormed.grouped,
      (describes_iff (nodup_clausesOf query)).mp (describes_clausesOf query)⟩
  rw [read, tokenized]
  dsimp only
  rw [ofTokens, clausesRead]
  exact finished

/-- What is written of a well-formed query is read as that query. -/
theorem read_write {query : Query} (wellFormed : WellFormed query) :
    read (write query) = .ok query := by
  have written := clauses_writtenAs wellFormed.clauses
  rcases tokenize_of_spelling (spelling_writtenKinds written.writable) with
    ⟨tokens, tokenized, kinds⟩
  exact read_of_tokens wellFormed tokenized kinds

/-- The queries that some text is read as are those that are well formed, and each of
them is read back from what is written of it. -/
theorem readable_iff_wellFormed (query : Query) :
    ((∃ text, read text = .ok query) ↔ WellFormed query) ∧
      (read (write query) = .ok query ↔ WellFormed query) := by
  refine ⟨⟨?_, fun wellFormed => ⟨write query, read_write wellFormed⟩⟩,
    ⟨wellFormed_of_read, read_write⟩⟩
  rintro ⟨text, success⟩
  exact wellFormed_of_read success

end Query
end TestQuery
