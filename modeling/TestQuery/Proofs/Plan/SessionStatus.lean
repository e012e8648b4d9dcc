import TestQuery.Proofs.Plan.Pinning

namespace TestQuery
namespace Plan

open Sql
open Query (Purpose)

/-!
# The status of a session, in a list and on its own

A list of sessions joins the testcases of each session, tests the conditions of the query
on what was joined, and then takes the worst status in each group.  So a session is listed
with the worst status of those of its testcases that meet the conditions.  A lookup of the
session puts no condition on testcases, and gives the worst status of them all.

The two differ where all testcases with the worst status fail the conditions.  They agree
for a session without testcases, and for all sessions if the query asks only about the
session and its labels.
-/

/-! ## Testcases that are joined -/

def testcasesOf (db : Database) (session : Row) : Multiset Row :=
  (db.rows .testcases).filter fun testcase =>
    session.get .id ≠ none ∧ session.get .id = testcase.get .sessionId

/-- What is joined to a session: its testcases, or a row without cells if there are none. -/
def joinedTo (db : Database) (session : Row) : Multiset Row :=
  if testcasesOf db session = 0 then {[]} else testcasesOf db session

/-- A session and what is joined to it. -/
def paired (session testcase : Row) : Combination :=
  (Combination.single (.table .sessions) session).set (.table .testcases) testcase

section

variable {db : Database}

theorem paired_session (session testcase : Row) :
    paired session testcase (.table .sessions) = session := by
  have apart : Relation.table .sessions ≠ .table .testcases := nofun
  rw [paired, Combination.set_other _ _ apart, Combination.single_same]

theorem paired_testcase (session testcase : Row) :
    paired session testcase (.table .testcases) = testcase :=
  Combination.set_same _ _ testcase

theorem testcasesOfSession_fits_iff {session testcase : Row} :
    testcasesOfSession.Fits db (.single (.table .sessions) session) testcase ↔
      session.get .id ≠ none ∧ session.get .id = testcase.get .sessionId := by
  have left : (paired session testcase).get (Table.sessions.col .id) = session.get .id :=
    congrArg (Row.get · .id) (paired_session session testcase)
  have right : (paired session testcase).get (Table.testcases.col .sessionId) =
      testcase.get .sessionId :=
    congrArg (Row.get · .sessionId) (paired_testcase session testcase)
  change Logic.threeValued.all [((paired session testcase).get (Table.sessions.col .id)).compare
    .equal ((paired session testcase).get (Table.testcases.col .sessionId))] = .yes ↔ _
  rw [left, right, all_eq_yes_iff, List.forall_mem_singleton, Cell.compare_equal_eq_yes_iff]

theorem extend_testcasesOfSession (session : Row) :
    testcasesOfSession.extend db (.single (.table .sessions) session) =
      (joinedTo db session).map (paired session) := by
  have fitting : (db.rows .testcases).filter
      (testcasesOfSession.Fits db (.single (.table .sessions) session)) =
      testcasesOf db session :=
    Multiset.filter_congr fun testcase _ => testcasesOfSession_fits_iff
  unfold Join.extend
  change (if true = true ∧ (db.rows .testcases).filter _ = 0 then _ else
    ((db.rows .testcases).filter _).map (paired session)) = _
  rw [fitting, joinedTo]
  by_cases nothing : testcasesOf db session = 0
  · rw [if_pos ⟨rfl, nothing⟩, if_pos nothing]
    rfl
  · rw [if_neg fun both => nothing both.2, if_neg nothing]

/-! ## Sessions that are found -/

variable (db) in
/-- What is joined to a session and meets the conditions. -/
def met (conditions : List Condition) (session : Row) : Multiset Row :=
  (joinedTo db session).filter fun testcase =>
    (sessionRows conditions).Holds db (paired session testcase)

theorem mem_found_iff {conditions : List Condition} {source : Multiset Row} {last : Combination} :
    last ∈ (sessionRows conditions).found db source ↔
      ∃ session ∈ source, ∃ testcase ∈ met db conditions session,
        last = paired session testcase := by
  have joined : last ∈ joinAll db [testcasesOfSession] (source.map (.single (.table .sessions))) ↔
      ∃ session ∈ source, ∃ testcase ∈ joinedTo db session, last = paired session testcase := by
    change last ∈ (source.map _).bind (testcasesOfSession.extend db) ↔ _
    rw [Multiset.mem_bind]
    constructor
    · rintro ⟨first, isFirst, member⟩
      rcases Multiset.mem_map.mp isFirst with ⟨session, isSession, rfl⟩
      rw [extend_testcasesOfSession] at member
      rcases Multiset.mem_map.mp member with ⟨testcase, isJoined, rfl⟩
      exact ⟨session, isSession, testcase, isJoined, rfl⟩
    · rintro ⟨session, isSession, testcase, isJoined, rfl⟩
      refine ⟨_, Multiset.mem_map_of_mem _ isSession, ?_⟩
      rw [extend_testcasesOfSession]
      exact Multiset.mem_map_of_mem _ isJoined
  unfold Select.found
  rw [Multiset.mem_filter]
  change last ∈ joinAll db [testcasesOfSession] (source.map (.single (.table .sessions))) ∧ _ ↔ _
  rw [joined]
  constructor
  · rintro ⟨⟨session, isSession, testcase, isJoined, rfl⟩, holds⟩
    exact ⟨session, isSession, testcase, Multiset.mem_filter.mpr ⟨isJoined, holds⟩, rfl⟩
  · rintro ⟨session, isSession, testcase, isMet, rfl⟩
    rcases Multiset.mem_filter.mp isMet with ⟨isJoined, holds⟩
    exact ⟨⟨session, isSession, testcase, isJoined, rfl⟩, holds⟩

/-! ## One row for each session -/

/-- Every session has an id of its own, and every testcase has a status. -/
structure Graded (db : Database) : Prop where
  sessionIds : ((db.rows .sessions).map (·.get .id)).Nodup
  statuses : ∀ testcase ∈ db.rows .testcases,
    ∃ rank, testcase.get .status = some (.number rank)

theorem Graded.session_eq (graded : Graded db) {first second : Row}
    (isFirst : first ∈ db.rows .sessions) (isSecond : second ∈ db.rows .sessions)
    (same : first.get .id = second.get .id) : first = second :=
  Multiset.inj_on_of_nodup_map graded.sessionIds first isFirst second isSecond same

def withStatus (session : Row) (status : Cell) : Row :=
  session ++ [("aggregated_status", status)]

theorem groupKey_paired (conditions : List Condition) (session testcase : Row) :
    (sessionRows conditions).groupKey (paired session testcase) = [session.get .id] := by
  change [(paired session testcase (.table .sessions)).get .id] = _
  rw [paired_session]

/-- The group of a session is what is joined to it and meets the conditions. -/
theorem given_paired (graded : Graded db) (conditions : List Condition) {session : Row}
    (isSession : session ∈ db.rows .sessions) (testcase : Row) :
    (sessionRows conditions).given ((sessionRows conditions).found db (db.rows .sessions))
        (((sessionRows conditions).found db (db.rows .sessions)).filter fun other =>
          (sessionRows conditions).groupKey other = [session.get .id])
        (paired session testcase) =
      withStatus session (worstStatus (met db conditions session)) := by
  have status : least ((((sessionRows conditions).found db (db.rows .sessions)).filter
      fun other => (sessionRows conditions).groupKey other = [session.get .id]).map
        (·.get (Table.testcases.col .status))) =
      worstStatus (met db conditions session) := by
    -- the least value depends on membership only, so it does not matter how often a
    -- testcase was joined
    apply least_congr
    intro cell
    rw [Multiset.mem_map, Multiset.mem_map]
    constructor
    · rintro ⟨other, isOther, rfl⟩
      rcases Multiset.mem_filter.mp isOther with ⟨isFound, sameKey⟩
      rcases mem_found_iff.mp isFound with ⟨owner, isOwner, joined, isMet, rfl⟩
      rw [groupKey_paired] at sameKey
      cases graded.session_eq isOwner isSession (List.singleton_inj.mp sameKey)
      exact ⟨joined, isMet, congrArg (Row.get · .status) (paired_testcase session joined).symm⟩
    · rintro ⟨joined, isMet, rfl⟩
      refine ⟨paired session joined, Multiset.mem_filter.mpr ⟨?_, ?_⟩, ?_⟩
      · exact mem_found_iff.mpr ⟨session, isSession, joined, isMet, rfl⟩
      · exact groupKey_paired conditions session joined
      · exact congrArg (Row.get · .status) (paired_testcase session joined)
  change paired session testcase (.table .sessions) ++ [("aggregated_status", least _)] = _
  rw [status, paired_session]
  rfl

/-- A selection of sessions gives each session once that meets the conditions with something
that was joined to it. -/
theorem result_sessionRows (graded : Graded db) (conditions : List Condition) :
    (sessionRows conditions).result db (db.rows .sessions) =
      ((db.rows .sessions).filter fun session => met db conditions session ≠ 0).map
        fun session => withStatus session (worstStatus (met db conditions session)) := by
  have grouped : (sessionRows conditions).grouping ≠ [] := nofun
  have keys : (((db.rows .sessions).filter fun session => met db conditions session ≠ 0).map
      fun session => [session.get .id]).Nodup := by
    have ids := Multiset.nodup_of_le (Multiset.map_le_map (Multiset.filter_le
      (fun session => met db conditions session ≠ 0) _)) graded.sessionIds
    have listed := ids.map List.singleton_injective
    rwa [Multiset.map_map] at listed
  unfold Select.result
  apply Select.shown_of_groups grouped keys
  · intro last isFound
    rcases mem_found_iff.mp isFound with ⟨session, isSession, testcase, isMet, rfl⟩
    refine ⟨session, Multiset.mem_filter.mpr ⟨isSession, ?_⟩, groupKey_paired _ _ _⟩
    rintro nothing
    rw [nothing] at isMet
    exact absurd isMet (Multiset.notMem_zero testcase)
  · intro session member
    rcases Multiset.mem_filter.mp member with ⟨isSession, metAny⟩
    rcases Multiset.exists_mem_of_ne_zero metAny with ⟨testcase, isMet⟩
    exact ⟨paired session testcase, mem_found_iff.mpr ⟨session, isSession, testcase, isMet, rfl⟩,
      groupKey_paired _ _ _⟩
  · intro session member last isFound sameKey
    rcases mem_found_iff.mp isFound with ⟨owner, isOwner, testcase, -, rfl⟩
    rw [groupKey_paired] at sameKey
    have isSession := Multiset.mem_of_mem_filter member
    cases graded.session_eq isOwner isSession (List.singleton_inj.mp sameKey)
    exact given_paired graded conditions isSession testcase

/-! ## Testcases that meet the conditions -/

variable (db) in
/-- The testcases of a session that meet the conditions. -/
def matching (conditions : List Condition) (session : Row) : Multiset Row :=
  (testcasesOf db session).filter fun testcase =>
    (sessionRows conditions).Holds db (paired session testcase)

theorem met_eq_matching {session : Row} (hasTestcases : testcasesOf db session ≠ 0)
    (conditions : List Condition) : met db conditions session = matching db conditions session := by
  rw [met, joinedTo, if_neg hasTestcases, matching]

/-- A row without cells has no status, and does not count. -/
theorem worstStatus_met (conditions : List Condition) (session : Row) :
    worstStatus (met db conditions session) = worstStatus (matching db conditions session) := by
  by_cases nothing : testcasesOf db session = 0
  · have noStatus : worstStatus (met db conditions session) = none := by
      rw [worstStatus, least_eq_none_iff]
      intro rank member
      rcases Multiset.mem_map.mp member with ⟨joined, isMet, hasStatus⟩
      have isJoined := Multiset.mem_of_mem_filter isMet
      rw [joinedTo, if_pos nothing] at isJoined
      cases Multiset.mem_singleton.mp isJoined
      cases hasStatus
    rw [noStatus, matching, nothing]
    rfl
  · rw [met_eq_matching nothing]

/-- A session is listed for its testcases, if it has any. -/
theorem matching_eq_zero_iff {conditions : List Condition} {session : Row}
    (listed : met db conditions session ≠ 0) :
    matching db conditions session = 0 ↔ testcasesOf db session = 0 := by
  constructor
  · intro noMatch
    by_contra hasTestcases
    rw [met_eq_matching hasTestcases] at listed
    exact listed noMatch
  · intro nothing
    rw [matching, nothing]
    rfl

/-- The conditions are about the session only. -/
def AboutSession (conditions : List Condition) : Prop :=
  ∀ condition ∈ conditions, ∀ test ∈ condition.tests, test.column.relation = .table .sessions

theorem AboutSession.holds_iff {conditions : List Condition} (about : AboutSession conditions)
    (session first second : Row) :
    (sessionRows conditions).Holds db (paired session first) ↔
      (sessionRows conditions).Holds db (paired session second) := by
  rw [Select.holds_iff, Select.holds_iff]
  refine forall₂_congr fun condition member => ?_
  rw [Condition.truth_congr fun test isTest => ?_]
  rw [about condition member test isTest, paired_session, paired_session]

/-- Conditions about the session only are met by all its testcases or by none. -/
theorem AboutSession.matching_eq {conditions : List Condition} (about : AboutSession conditions)
    {session : Row} (listed : met db conditions session ≠ 0) :
    matching db conditions session = testcasesOf db session := by
  rcases Multiset.exists_mem_of_ne_zero listed with ⟨joined, isMet⟩
  apply Multiset.filter_eq_self.mpr
  intro testcase _
  exact (about.holds_iff session testcase joined).mpr (Multiset.mem_filter.mp isMet).2

/-! ## Worst statuses -/

theorem Graded.statuses_of (graded : Graded db) (session : Row) :
    ∀ testcase ∈ testcasesOf db session, ∃ rank, testcase.get .status = some (.number rank) :=
  fun testcase member => graded.statuses testcase (Multiset.mem_of_mem_filter member)

theorem worstStatus_eq_none_iff {testcases : Multiset Row}
    (known : ∀ testcase ∈ testcases, ∃ rank, testcase.get .status = some (.number rank)) :
    worstStatus testcases = none ↔ testcases = 0 := by
  rw [worstStatus, least_eq_none_iff]
  constructor
  · intro noStatus
    apply Multiset.eq_zero_of_forall_notMem
    intro testcase member
    rcases known testcase member with ⟨rank, hasStatus⟩
    exact noStatus rank (Multiset.mem_map.mpr ⟨testcase, member, hasStatus⟩)
  · rintro rfl rank member
    exact absurd member (Multiset.notMem_zero _)

/-- Some of the testcases have the worst status of them all if and only if one of them has
it, or if there are none at all. -/
theorem worstStatus_eq_iff {all part : Multiset Row} (isPart : part ⊆ all)
    (known : ∀ testcase ∈ all, ∃ rank, testcase.get .status = some (.number rank)) :
    worstStatus part = worstStatus all ↔
      all = 0 ∨ ∃ testcase ∈ part, testcase.get .status = worstStatus all := by
  by_cases nothing : all = 0
  · have noPart : part = 0 := Multiset.eq_zero_of_forall_notMem fun testcase member =>
      absurd (nothing ▸ isPart member) (Multiset.notMem_zero testcase)
    rw [noPart, nothing]
    exact ⟨fun _ => .inl rfl, fun _ => rfl⟩
  · have hasWorst : worstStatus all ≠ none := mt (worstStatus_eq_none_iff known).mp nothing
    rcases exists_number_of_least hasWorst with ⟨worst, isWorst⟩
    change worstStatus all = some (.number worst) at isWorst
    rw [isWorst]
    constructor
    · intro sameWorst
      have isThere := (least_eq_some_iff.mp sameWorst).1
      rcases Multiset.mem_map.mp isThere with ⟨testcase, member, hasStatus⟩
      exact .inr ⟨testcase, member, hasStatus⟩
    · rintro (empty | ⟨testcase, member, hasStatus⟩)
      · exact absurd empty nothing
      · apply least_eq_some_iff.mpr
        refine ⟨Multiset.mem_map.mpr ⟨testcase, member, hasStatus⟩, fun other isOther => ?_⟩
        apply (least_eq_some_iff.mp isWorst).2
        rcases Multiset.mem_map.mp isOther with ⟨another, isAnother, itsStatus⟩
        exact Multiset.mem_map.mpr ⟨another, isPart isAnother, itsStatus⟩

/-! ## Lists and lookups -/

theorem aboutSession_ownedRow (id owner : Uuid) :
    AboutSession (ownedRow .sessions .id id owner) := by
  intro condition member
  simp only [ownedRow, List.mem_cons, List.not_mem_nil, or_false] at member
  rcases member with rfl | rfl <;> exact List.forall_mem_singleton.mpr rfl

theorem joinedTo_ne_zero (session : Row) : joinedTo db session ≠ 0 := by
  rw [joinedTo]
  split
  · exact Multiset.singleton_ne_zero []
  · assumption

theorem sessionTest_iff {column : Column} {id : Uuid} (session joined : Row) :
    (Condition.test (.compare (Table.sessions.col column) .equal (.id id))).truth db
        (paired session joined) = .yes ↔ session.get column = some (.id id) := by
  have cell : (paired session joined).get (Table.sessions.col column) = session.get column :=
    congrArg (Row.get · column) (paired_session session joined)
  change Cell.compare .equal ((paired session joined).get _) (some (.id id)) = .yes ↔ _
  rw [cell, Cell.compare_equal_eq_yes_iff]
  constructor
  · rintro ⟨-, same⟩
    exact same
  · intro same
    rw [same]
    exact ⟨nofun, rfl⟩

/-- A session is looked up by its id and its owner. -/
theorem met_ownedRow_iff {id owner : Uuid} {session : Row} :
    met db (ownedRow .sessions .id id owner) session ≠ 0 ↔
      session.get .id = some (.id id) ∧ session.get .userId = some (.id owner) := by
  have holds (joined : Row) :
      (sessionRows (ownedRow .sessions .id id owner)).Holds db (paired session joined) ↔
        session.get .id = some (.id id) ∧ session.get .userId = some (.id owner) := by
    rw [Select.holds_iff]
    change (∀ condition ∈ ownedRow .sessions .id id owner, _) ↔ _
    rw [ownedRow, List.forall_mem_cons, List.forall_mem_singleton, sessionTest_iff,
      sessionTest_iff]
  constructor
  · intro listed
    rcases Multiset.exists_mem_of_ne_zero listed with ⟨joined, isMet⟩
    exact (holds joined).mp (Multiset.mem_filter.mp isMet).2
  · intro isOwn
    have all : met db (ownedRow .sessions .id id owner) session = joinedTo db session :=
      Multiset.filter_eq_self.mpr fun joined _ => (holds joined).mpr isOwn
    rw [all]
    exact joinedTo_ne_zero session

/-- The lookup of a session gives the session with the worst status of all its testcases. -/
theorem rows_sessionLookup (graded : Graded db) (settings : Settings) {owner id : Uuid}
    {session : Row} (isSession : session ∈ db.rows .sessions)
    (hasId : session.get .id = some (.id id)) (owned : session.get .userId = some (.id owner)) :
    (sessionLookup settings owner id).statement.rows db =
      {withStatus session (worstStatus (testcasesOf db session))} := by
  have listed : met db (ownedRow .sessions .id id owner) session ≠ 0 :=
    met_ownedRow_iff.mpr ⟨hasId, owned⟩
  have only : ((db.rows .sessions).filter fun other =>
      met db (ownedRow .sessions .id id owner) other ≠ 0) = {session} := by
    have nodup := (Multiset.Nodup.of_map _ graded.sessionIds).filter
      fun other => met db (ownedRow .sessions .id id owner) other ≠ 0
    apply (Multiset.Nodup.ext nodup (Multiset.nodup_singleton session)).mpr
    intro other
    rw [Multiset.mem_filter, Multiset.mem_singleton, met_ownedRow_iff]
    constructor
    · rintro ⟨isOther, sameId, -⟩
      exact graded.session_eq isOther isSession (sameId.trans hasId.symm)
    · rintro rfl
      exact ⟨isSession, hasId, owned⟩
  change (sessionRows (ownedRow .sessions .id id owner)).result db (db.rows .sessions) = _
  rw [result_sessionRows graded, only, Multiset.map_singleton, worstStatus_met,
    (aboutSession_ownedRow id owner).matching_eq listed]

/-- A lookup has one answer if it has one row. -/
theorem answers_sessionLookup_iff {settings : Settings} {owner id : Uuid} {row : Row}
    (only : (sessionLookup settings owner id).statement.rows db = {row}) (answer : List Row) :
    (sessionLookup settings owner id).statement.Answers db answer ↔ answer = [row] := by
  constructor
  · rintro ⟨ordered, all, rfl⟩
    rw [only] at all
    exact Multiset.coe_eq_singleton.mp all
  · rintro rfl
    exact ⟨[row], only.symm, rfl⟩

variable {settings : Settings} {owner : Uuid} {query : Query}

/-- Every listed session is one of the owner. -/
theorem owned_of_met {pins : List Condition} {session : Row}
    (listed : met db (conditionsOf owner query .sessions pins) session ≠ 0) :
    session.get .userId = some (.id owner) := by
  rcases Multiset.exists_mem_of_ne_zero listed with ⟨joined, isMet⟩
  have holds := Select.holds_iff.mp (Multiset.mem_filter.mp isMet).2
  have isOwner : .test (ownerTest .sessions owner) ∈ conditionsOf owner query .sessions pins := by
    refine mem_conditionsOf.mpr (.inl ?_)
    simp [scope, ownerTest, scopeTable]
  exact (sessionTest_iff session joined).mp (holds _ isOwner)

/-- The predicate is about the session and its labels. -/
def ofSession : Predicate → Bool
  | .session _ _ | .tagged _ _ | .taggedWith _ _ _ => true
  | _ => false

theorem aboutSession_of_pinned {number : Nat} {keys : List GroupKey} {values : List String}
    {pins : List Condition} (pinned : Pinned .sessions number keys values pins) :
    AboutSession pins := by
  induction pinned with
  | nil => exact List.forall_mem_nil _
  | session named others inductionHypothesis =>
      exact List.forall_mem_cons.mpr ⟨List.forall_mem_singleton.mpr rfl, inductionHypothesis⟩
  | tag others inductionHypothesis =>
      exact List.forall_mem_cons.mpr ⟨List.forall_mem_singleton.mpr rfl, inductionHypothesis⟩

theorem aboutSession_scope : AboutSession (scope owner .sessions query) := by
  intro condition member
  simp only [scope, List.mem_append, List.mem_singleton, Option.mem_toList,
    Option.map_eq_some_iff] at member
  rcases member with (rfl | ⟨moment, -, rfl⟩) | ⟨moment, -, rfl⟩ <;>
    exact List.forall_mem_singleton.mpr rfl

theorem aboutSession_conditionsOf {pins : List Condition}
    (pinned : pinsOf query .sessions = .ok pins)
    (predicates : ∀ link ∈ query.predicates, ofSession link.2 = true) :
    AboutSession (conditionsOf owner query .sessions pins) := by
  intro condition member
  rcases mem_conditionsOf.mp member with ofScope | ofChain | ofPins
  · exact aboutSession_scope condition ofScope
  · intro test isTest
    rcases exists_predicate_of_chainOf ofChain test isTest with ⟨link, isLink, rfl⟩
    have isAbout := predicates link isLink
    cases predicate : link.2 <;> rw [predicate] at isAbout <;> cases isAbout <;> rfl
  · exact aboutSession_of_pinned (pinned_of_ok pinned) condition ofPins

/-- What is said of a session in a list and in a lookup. -/
structure StatusReport (db : Database) (settings : Settings) (owner : Uuid) (query : Query)
    (plan : Plan) (session row : Row) : Prop where
  /-- The list gives the worst status of the testcases that meet the conditions. -/
  listed : row = withStatus session
      (worstStatus (matching db plan.statement.inner.conditions session)) ++
    [("total_count", some (.number (plan.statement.innerRows db).card))]
  /-- The lookup gives the worst status of all testcases. -/
  lookedUp : ∀ id, session.get .id = some (.id id) → ∀ answer,
    (sessionLookup settings owner id).statement.Answers db answer ↔
      answer = [withStatus session (worstStatus (testcasesOf db session))]
  /-- Either status is empty for a session without testcases, and for no other. -/
  listedEmpty : worstStatus (matching db plan.statement.inner.conditions session) = none ↔
    testcasesOf db session = 0
  lookedUpEmpty : worstStatus (testcasesOf db session) = none ↔ testcasesOf db session = 0
  /-- The two agree if a testcase with the worst status meets the conditions. -/
  agree : worstStatus (matching db plan.statement.inner.conditions session) =
      worstStatus (testcasesOf db session) ↔
    testcasesOf db session = 0 ∨
      ∃ testcase ∈ matching db plan.statement.inner.conditions session,
        testcase.get .status = worstStatus (testcasesOf db session)
  /-- They agree if the query asks about sessions and labels only. -/
  agreeOfSession : (∀ link ∈ query.predicates, ofSession link.2 = true) →
    worstStatus (matching db plan.statement.inner.conditions session) =
      worstStatus (testcasesOf db session)

/-- The rows that a list of sessions is cut from. -/
theorem rows_sessionList (graded : Graded db) (page : Page) (pins : List Condition) :
    (assembled settings owner query .sessions page pins).statement.rows db =
      ((db.rows .sessions).filter fun session =>
        met db (conditionsOf owner query .sessions pins) session ≠ 0).map fun session =>
          withStatus session
              (worstStatus (matching db (conditionsOf owner query .sessions pins) session)) ++
            [("total_count", some (.number ((assembled settings owner query .sessions page
              pins).statement.innerRows db).card))] := by
  change (pageSelect page [] _).result db
    ((sessionRows (conditionsOf owner query .sessions pins)).result db (db.rows .sessions)) = _
  rw [result_pageSelect]
  have counted :
      ((assembled settings owner query .sessions page pins).statement.innerRows db).card =
      (((sessionRows (conditionsOf owner query .sessions pins)).result db
        (db.rows .sessions)).map (Combination.single .page)).card :=
    (Multiset.card_map _ _).symm
  rw [counted, result_sessionRows graded, Multiset.map_map]
  refine Multiset.map_congr rfl fun session _ => ?_
  rw [← worstStatus_met]
  rfl

theorem statusReport_of_met (graded : Graded db) (page : Page) {pins : List Condition}
    (pinned : pinsOf query .sessions = .ok pins) {session : Row}
    (isSession : session ∈ db.rows .sessions)
    (listed : met db (conditionsOf owner query .sessions pins) session ≠ 0) :
    StatusReport db settings owner query (assembled settings owner query .sessions page pins)
      session
      (withStatus session
          (worstStatus (matching db (conditionsOf owner query .sessions pins) session)) ++
        [("total_count", some (.number ((assembled settings owner query .sessions page
          pins).statement.innerRows db).card))]) := by
  have isPart : matching db (conditionsOf owner query .sessions pins) session ⊆
      testcasesOf db session := Multiset.filter_subset _ _
  have known := graded.statuses_of session
  constructor
  · rfl
  · intro id hasId
    exact answers_sessionLookup_iff
      (rows_sessionLookup graded settings isSession hasId (owned_of_met listed))
  · rw [← matching_eq_zero_iff listed]
    exact worstStatus_eq_none_iff fun testcase member => known testcase (isPart member)
  · exact worstStatus_eq_none_iff known
  · exact worstStatus_eq_iff isPart known
  · intro predicates
    exact congrArg worstStatus ((aboutSession_conditionsOf pinned predicates).matching_eq listed)

theorem mem_rows_of_answers {statement : Statement} {answer : List Row}
    (answers : statement.Answers db answer) {row : Row} (member : row ∈ answer) :
    row ∈ statement.rows db := by
  rcases answers with ⟨ordered, all, rfl⟩
  rw [← all, Multiset.mem_coe]
  unfold Select.cut at member
  split at member
  · exact List.mem_of_mem_drop member
  · exact List.mem_of_mem_drop (List.mem_of_mem_take member)

/-- A session is listed with the worst status of those testcases that meet the conditions,
and looked up with the worst status of all its testcases. -/
theorem listed_status_of_matching {plan : Plan} (graded : Graded db)
    (planned : ofQuery settings owner query .sessions = .ok plan) {answer : List Row}
    (answers : plan.statement.Answers db answer) :
    ∀ row ∈ answer, ∃ session ∈ db.rows .sessions,
      StatusReport db settings owner query plan session row := by
  intro row member
  have isRow := mem_rows_of_answers answers member
  rcases assembled_of_ok planned with ⟨page, pins, -, pinned, -, rfl⟩
  rw [rows_sessionList graded] at isRow
  rcases Multiset.mem_map.mp isRow with ⟨session, isListed, rfl⟩
  rcases Multiset.mem_filter.mp isListed with ⟨isSession, listed⟩
  exact ⟨session, isSession, statusReport_of_met graded page pinned isSession listed⟩

end

/-! ## A session with a failure and a success -/

/-- One session, with a testcase that passed and one that ended in an error. -/
def mixed : Database where
  rows
    | .sessions => [sessionRow 1 0]
    | .testcases => [outcomeRow 1 1 2, outcomeRow 2 1 0]
    | .labels => 0

/-- The sessions in which something passed. -/
def passingQuery : Query where
  chain := [⟨.and, some (.status .equal .pass)⟩]

theorem graded_mixed : Graded mixed := by
  refine ⟨by decide, fun testcase member => ?_⟩
  have either : testcase = outcomeRow 1 1 2 ∨ testcase = outcomeRow 2 1 0 := by
    simpa [mixed] using member
  rcases either with rfl | rfl
  · exact ⟨2, by decide⟩
  · exact ⟨0, by decide⟩

/-- The session, as one that passed. -/
def passedRow : Row :=
  withStatus (sessionRow 1 0) (some (.number 2)) ++ [("total_count", some (.number 1))]

theorem answers_passingQuery :
    ∃ plan, ofQuery {} (numbered 0) passingQuery .sessions = .ok plan ∧
      plan.statement.rows mixed = {passedRow} ∧ plan.statement.Answers mixed [passedRow] :=
  ⟨_, rfl, by decide, ⟨[passedRow], by decide, rfl⟩⟩

theorem listed_status_of_matching_mixed :
    Graded mixed ∧ ∃ plan, ofQuery {} (numbered 0) passingQuery .sessions = .ok plan ∧
      plan.statement.Answers mixed [passedRow] ∧ ∃ session ∈ mixed.rows .sessions,
        StatusReport mixed {} (numbered 0) passingQuery plan session passedRow := by
  rcases answers_passingQuery with ⟨plan, planned, -, answers⟩
  have report := listed_status_of_matching graded_mixed planned answers
  exact ⟨graded_mixed, plan, planned, answers, report passedRow List.mem_cons_self⟩

/-- The testcase that ended in an error does not meet the condition.  So the list says that
the session passed, where the lookup says that it ended in an error. -/
theorem listed_status_differs :
    Graded mixed ∧ ∃ plan, ofQuery {} (numbered 0) passingQuery .sessions = .ok plan ∧
      plan.statement.rows mixed = {passedRow} ∧
      (sessionLookup {} (numbered 0) (numbered 1)).statement.rows mixed =
        {withStatus (sessionRow 1 0) (some (.number 0))} := by
  rcases answers_passingQuery with ⟨plan, planned, listed, -⟩
  exact ⟨graded_mixed, plan, planned, listed, by decide⟩

end Plan
end TestQuery
