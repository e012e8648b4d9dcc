import TestQuery.Proofs.Plan.Planned

namespace TestQuery
namespace Plan

open Sql
open Query (Purpose)

/-!
# Which queries have a plan

Planning repeats what the check of a query does: a list and an enumeration look at the
keys and the selector in their own ways and in their own order.  All of it comes to one
condition on the query and its purpose.  A query that meets it is planned; one that
fails it is refused, whether or not it was checked before.

The stages of planning are independent of each other, and each of them is described by
the one thing that it refuses.
-/

/-! ## The stages, one by one -/

/-- The chain is empty, or its first predicate is joined to nothing. -/
def LeadsAlone (query : Query) : Prop :=
  ∀ link ∈ query.chain.head?, link.connective = .and

/-- The window can be given. -/
structure InBounds (query : Query) : Prop where
  offset : 0 ≤ query.offset
  limit : 0 ≤ query.limit ∧ query.limit ≤ 100

theorem leadsAlone_of_filter {key : ColumnRef} {query : Query} {conditions : List Condition}
    (success : filter key query = .ok conditions) : LeadsAlone query := by
  intro link isFirst
  unfold filter at success
  split at success
  · cases success
  · rename_i notOr
    cases links : query.chain with
    | nil =>
        rw [links] at isFirst
        cases isFirst
    | cons first others =>
        rw [links] at isFirst
        cases isFirst
        obtain ⟨connective, predicate⟩ := link
        cases connective with
        | and => rfl
        | or => exact absurd links (notOr predicate others)

theorem filter_of_leadsAlone {query : Query} (leads : LeadsAlone query) (key : ColumnRef) :
    filter key query = .ok (chainCondition key query).toList := by
  unfold filter
  split
  · rename_i predicate others links
    have isAnd := leads ⟨.or, predicate⟩ (by rw [links]; rfl)
    cases isAnd
  · rfl

theorem pageOf_of_inBounds {query : Query} (inBounds : InBounds query) :
    pageOf query = .ok ⟨query.offset.toNat, limitOf query⟩ := by
  obtain ⟨offset, atLeast, atMost⟩ := inBounds
  have noneTooLarge : ¬ query.limit > Query.greatestLimit := by
    unfold Query.greatestLimit
    omega
  unfold pageOf Page.ofQuery limitOf
  rw [if_neg (by omega)]
  by_cases usual : query.limit = 0
  · rw [if_pos usual, if_pos usual]
    rfl
  · rw [if_neg usual, if_neg usual, if_neg (by omega), if_neg noneTooLarge]
    rfl

theorem inBounds_of_pageOf {query : Query} {page : Page} (success : pageOf query = .ok page) :
    InBounds query := by
  unfold pageOf Page.ofQuery Query.greatestLimit at success
  split at success
  · cases success
  · split at success
    · exact ⟨by omega, by omega⟩
    · split at success
      · cases success
      · split at success
        · cases success
        · exact ⟨by omega, by omega⟩

theorem enumerationKeys_of_nonempty {query : Query} (keyed : keysOf query ≠ []) :
    enumerationKeys query = .ok (keysOf query) := by
  unfold enumerationKeys
  unfold keysOf at keyed ⊢
  split
  · rename_i none
    rw [none] at keyed
    exact absurd rfl keyed
  · rename_i empty
    rw [empty] at keyed
    exact absurd rfl keyed
  · rename_i keys _ isGroupBy
    rw [isGroupBy]
    rfl

theorem leadsAlone_of_ok {settings : Settings} {owner : Uuid} {query : Query} {purpose : Purpose}
    {plan : Plan} (success : ofQuery settings owner query purpose = .ok plan) :
    LeadsAlone query := by
  cases purpose with
  | testcases =>
      obtain ⟨page, -, afterPage⟩ := bind_eq_ok_iff.mp success
      obtain ⟨chain, filtered, -⟩ := bind_eq_ok_iff.mp afterPage
      exact leadsAlone_of_filter filtered
  | sessions =>
      obtain ⟨page, -, afterPage⟩ := bind_eq_ok_iff.mp success
      obtain ⟨chain, filtered, -⟩ := bind_eq_ok_iff.mp afterPage
      exact leadsAlone_of_filter filtered
  | groups =>
      obtain ⟨page, -, afterPage⟩ := bind_eq_ok_iff.mp success
      obtain ⟨keys, -, afterKeys⟩ := bind_eq_ok_iff.mp afterPage
      obtain ⟨pins, -, afterPins⟩ := bind_eq_ok_iff.mp afterKeys
      obtain ⟨chain, filtered, -⟩ := bind_eq_ok_iff.mp afterPins
      exact leadsAlone_of_filter filtered

/-- Where the chain leads alone and there are keys to enumerate, a plan needs a page and
pins and is put together from them. -/
theorem ofQuery_eq_assembled {query : Query} {purpose : Purpose} (leads : LeadsAlone query)
    (keyed : purpose = .groups → keysOf query ≠ []) (settings : Settings) (owner : Uuid) :
    ofQuery settings owner query purpose = (do
      let page ← pageOf query
      let pins ← pinsOf query purpose
      return assembled settings owner query purpose page pins) := by
  cases purpose with
  | testcases =>
      simp only [ofQuery, testcases, filter_of_leadsAlone leads]
      rfl
  | sessions =>
      simp only [ofQuery, sessions, filter_of_leadsAlone leads]
      rfl
  | groups =>
      rw [ofQuery, groups, enumerationKeys_of_nonempty (keyed rfl), filter_of_leadsAlone leads]
      rfl

/-! ## Selected values -/

/-- The value, if it is to name a session and names none. -/
def misnamed? : GroupKey → String → Option String
  | .session, value => if (Uuid.ofText? value.toList).isNone then some value else none
  | .tag _, _ => none

/-- The first of the selected values that is to name a session and names none. -/
def misnamedIn? (keys : List GroupKey) (values : List String) : Option String :=
  (keys.zip values).findSome? fun pair => misnamed? pair.1 pair.2

/-- The stage refuses the given value, or it succeeds where there is none. -/
def RefusesOnly {α : Type} (outcome : Except Query.Error α) : Option String → Prop
  | some value => outcome = .error (.unplannable (.invalidSelector value))
  | none => ∃ result, outcome = .ok result

theorem RefusesOnly.none_of_ok {α : Type} {outcome : Except Query.Error α} {value? : Option String}
    {result : α} (refuses : RefusesOnly outcome value?) (success : outcome = .ok result) :
    value? = none := by
  cases value? with
  | none => rfl
  | some value =>
      rw [success] at refuses
      cases refuses

theorem refusesOnly_selectedSession {α : Type} (value : String) (build : Uuid → α) :
    RefusesOnly
      (match selectedSession value with
        | .ok id => .ok (build id)
        | .error error => .error error)
      (misnamed? .session value) := by
  cases named : Uuid.ofText? value.toList with
  | none => simp [selectedSession, misnamed?, named, RefusesOnly]
  | some id => simp [selectedSession, misnamed?, named, RefusesOnly]

theorem refusesOnly_listPin (column : ColumnRef) (key : GroupKey) (value : String) :
    RefusesOnly (listPin column key value) (misnamed? key value) := by
  cases key with
  | session => exact refusesOnly_selectedSession value _
  | tag tag => exact ⟨_, rfl⟩

theorem refusesOnly_groupPin (column : ColumnRef) (key : GroupKey) (value : String) :
    RefusesOnly (groupPin key column value) (misnamed? key value) := by
  cases key with
  | session => exact refusesOnly_selectedSession value _
  | tag tag => exact ⟨_, rfl⟩

/-- The first of two stages that refuses anything has its refusal reported. -/
theorem RefusesOnly.cons {α : Type} {head : Except Query.Error α}
    {tail : Except Query.Error (List α)} {first later : Option String}
    (headRefuses : RefusesOnly head first) (tailRefuses : RefusesOnly tail later) :
    RefusesOnly (do let result ← head; let others ← tail; return result :: others)
      (first.or later) := by
  cases first with
  | some value =>
      have refused : head = .error (.unplannable (.invalidSelector value)) := headRefuses
      rw [refused]
      rfl
  | none =>
      obtain ⟨result, rfl⟩ := headRefuses
      cases later with
      | some value =>
          have refused : tail = .error (.unplannable (.invalidSelector value)) := tailRefuses
          rw [refused]
          rfl
      | none =>
          obtain ⟨others, rfl⟩ := tailRefuses
          exact ⟨result :: others, rfl⟩

theorem misnamedIn?_cons (key : GroupKey) (keys : List GroupKey) (value : String)
    (values : List String) :
    misnamedIn? (key :: keys) (value :: values) =
      (misnamed? key value).or (misnamedIn? keys values) := by
  rw [misnamedIn?, List.zip_cons_cons, List.findSome?_cons, misnamedIn?]
  cases misnamed? key value <;> rfl

theorem refusesOnly_listPins (column : ColumnRef) (keys : List GroupKey) (values : List String) :
    RefusesOnly ((keys.zip values).mapM fun pair => listPin column pair.1 pair.2)
      (misnamedIn? keys values) := by
  induction keys generalizing values with
  | nil => exact ⟨[], rfl⟩
  | cons key keys inductionHypothesis =>
      cases values with
      | nil => exact ⟨[], rfl⟩
      | cons value values =>
          rw [List.zip_cons_cons, List.mapM_cons, misnamedIn?_cons]
          exact (refusesOnly_listPin column key value).cons (inductionHypothesis values)

theorem refusesOnly_groupPins (number : Nat) (keys : List GroupKey) (values : List String) :
    RefusesOnly (groupPins keys (keyColumns number keys) values) (misnamedIn? keys values) := by
  induction keys generalizing number values with
  | nil => exact ⟨[], rfl⟩
  | cons key keys inductionHypothesis =>
      cases values with
      | nil => cases key <;> exact ⟨[], rfl⟩
      | cons value values =>
          rw [misnamedIn?_cons]
          cases key with
          | session =>
              exact (refusesOnly_groupPin _ .session value).cons (inductionHypothesis number values)
          | tag tag =>
              exact (refusesOnly_groupPin _ (.tag tag) value).cons
                (inductionHypothesis (number + 1) values)

/-- The first of the values that a query selects which is to name a session and names
none. -/
def misnamedOf? (query : Query) : Option String :=
  misnamedIn? (selection query).1 (selection query).2

theorem selectorFits_some {keys : List GroupKey} {values : List String}
    (fits : Query.selectorFits keys (some values) = .ok ()) : values.length = keys.length := by
  by_cases lengths : values.length = keys.length
  · exact lengths
  · simp only [Query.selectorFits, if_neg lengths] at fits
    cases fits

/-- The pins of a query that suits its purpose refuse only a value that names no session. -/
theorem refusesOnly_pinsOf {query : Query} {purpose : Purpose}
    (suits : query.check purpose = .ok ()) :
    RefusesOnly (pinsOf query purpose) (misnamedOf? query) := by
  have ofList (listed : query.checkList = .ok ()) (column : ColumnRef) :
      RefusesOnly (listPins column query) (misnamedOf? query) := by
    unfold Query.checkList at listed
    unfold listPins misnamedOf? selection
    cases isGroupBy : query.groupBy with
    | none => exact ⟨[], rfl⟩
    | some keys =>
        rw [isGroupBy] at listed
        cases isSelector : query.selector with
        | none =>
            rw [isSelector] at listed
            cases listed
        | some values =>
            rw [isSelector] at listed
            dsimp only
            rw [if_pos (selectorFits_some listed)]
            exact refusesOnly_listPins column keys values
  cases purpose with
  | testcases => exact ofList suits _
  | sessions => exact ofList suits _
  | groups =>
      unfold Query.check Query.checkGroups at suits
      unfold pinsOf enumerationPins misnamedOf? selection keysOf
      cases isGroupBy : query.groupBy with
      | none =>
          rw [isGroupBy] at suits
          cases suits
      | some keys =>
          rw [isGroupBy] at suits
          cases isSelector : query.selector with
          | none => exact ⟨[], rfl⟩
          | some values =>
              rw [isSelector] at suits
              dsimp only [Option.getD_some]
              rw [if_pos (selectorFits_some suits)]
              exact refusesOnly_groupPins 0 keys values

/-- Pins are found only for a query that suits its purpose. -/
theorem check_of_pinsOf {query : Query} {purpose : Purpose} {pins : List Condition}
    (keyed : purpose = .groups → keysOf query ≠ []) (success : pinsOf query purpose = .ok pins) :
    query.check purpose = .ok () := by
  have ofList {column : ColumnRef} (listed : listPins column query = .ok pins) :
      query.checkList = .ok () := by
    unfold listPins at listed
    unfold Query.checkList
    split at listed
    · rename_i isGroupBy
      rw [isGroupBy]
    · cases listed
    · rename_i keys values isGroupBy isSelector
      split at listed
      · rename_i lengths
        rw [isGroupBy, isSelector]
        exact if_pos lengths
      · cases listed
  cases purpose with
  | testcases => exact ofList success
  | sessions => exact ofList success
  | groups =>
      unfold pinsOf enumerationPins at success
      unfold Query.check Query.checkGroups
      cases isGroupBy : query.groupBy with
      | none =>
          unfold keysOf at keyed
          rw [isGroupBy] at keyed
          exact absurd rfl (keyed rfl)
      | some keys =>
          cases isSelector : query.selector with
          | none => rfl
          | some values =>
              rw [isSelector, keysOf, isGroupBy] at success
              dsimp only [Option.getD_some] at success
              split at success
              · rename_i lengths
                exact if_pos lengths
              · cases success

/-! ## The condition -/

/-- A query that can be planned for its purpose. -/
structure Acceptable (query : Query) (purpose : Purpose) : Prop where
  suits : query.check purpose = .ok ()
  leads : LeadsAlone query
  inBounds : InBounds query
  keyed : purpose = .groups → ∃ key keys, query.groupBy = some (key :: keys)
  selected : ∀ keys ∈ query.groupBy, ∀ values ∈ query.selector,
    ∀ value, (GroupKey.session, value) ∈ keys.zip values →
      (Uuid.ofText? value.toList).isSome = true

theorem keysOf_ne_nil_iff {query : Query} :
    keysOf query ≠ [] ↔ ∃ key keys, query.groupBy = some (key :: keys) := by
  unfold keysOf
  cases query.groupBy with
  | none => simp
  | some keys => cases keys <;> simp

theorem misnamedIn?_eq_none_iff {keys : List GroupKey} {values : List String} :
    misnamedIn? keys values = none ↔
      ∀ value, (GroupKey.session, value) ∈ keys.zip values →
        (Uuid.ofText? value.toList).isSome = true := by
  unfold misnamedIn?
  rw [List.findSome?_eq_none_iff]
  constructor
  · intro named value member
    have here := named _ member
    simpa [misnamed?, Option.isSome_iff_ne_none] using here
  · rintro named ⟨key, value⟩ member
    cases key with
    | session => simpa [misnamed?, Option.isSome_iff_ne_none] using named value member
    | tag tag => rfl

theorem misnamedOf?_eq_none_iff {query : Query} :
    misnamedOf? query = none ↔ ∀ keys ∈ query.groupBy, ∀ values ∈ query.selector,
      ∀ value, (GroupKey.session, value) ∈ keys.zip values →
        (Uuid.ofText? value.toList).isSome = true := by
  unfold misnamedOf? selection
  cases query.groupBy with
  | none => simp [misnamedIn?]
  | some keys =>
      cases query.selector with
      | none => simp [misnamedIn?]
      | some values => simp [misnamedIn?_eq_none_iff]

/-- A plan exists for exactly the acceptable queries. -/
theorem planned_iff_acceptable (settings : Settings) (owner : Uuid) (query : Query)
    (purpose : Purpose) :
    (∃ plan, ofQuery settings owner query purpose = .ok plan) ↔ Acceptable query purpose := by
  constructor
  · rintro ⟨plan, success⟩
    obtain ⟨page, pins, paged, pinned, keyed, -⟩ := assembled_of_ok success
    have suits := check_of_pinsOf keyed pinned
    have nothingMisnamed : misnamedOf? query = none :=
      (refusesOnly_pinsOf suits).none_of_ok pinned
    exact {
      suits := suits
      leads := leadsAlone_of_ok success
      inBounds := inBounds_of_pageOf paged
      keyed := fun isGroups => keysOf_ne_nil_iff.mp (keyed isGroups)
      selected := misnamedOf?_eq_none_iff.mp nothingMisnamed }
  · intro acceptable
    have keyed : purpose = .groups → keysOf query ≠ [] := fun isGroups =>
      keysOf_ne_nil_iff.mpr (acceptable.keyed isGroups)
    have refuses := refusesOnly_pinsOf acceptable.suits
    rw [misnamedOf?_eq_none_iff.mpr acceptable.selected] at refuses
    obtain ⟨pins, pinned⟩ := refuses
    rw [ofQuery_eq_assembled acceptable.leads keyed, pageOf_of_inBounds acceptable.inBounds, pinned]
    exact ⟨_, rfl⟩

/-! ## What a regular query is refused for -/

/-- What holds of every query that was read, also with another window in place of its
own. -/
structure Regular (query : Query) : Prop where
  leads : LeadsAlone query
  keyed : query.groupBy ≠ some []
  offset : 0 ≤ query.offset
  limit : 0 ≤ query.limit

/-- Why a regular query that suits its purpose has no plan. -/
def refusal? (query : Query) : Option Query.PlanFault :=
  if 100 < query.limit then some .excessiveLimit
  else (misnamedOf? query).map .invalidSelector

theorem refusal?_message (query : Query) :
    (refusal? query).map Query.PlanFault.message =
      if 100 < query.limit then some "limit cannot exceed 100"
      else (misnamedOf? query).map ("invalid selector value: " ++ ·) := by
  unfold refusal?
  split
  · rfl
  · rw [Option.map_map]
    rfl

theorem Regular.keysOf_ne_nil {query : Query} (regular : Regular query)
    (suits : query.check .groups = .ok ()) : keysOf query ≠ [] := by
  unfold Query.check Query.checkGroups at suits
  intro empty
  cases isGroupBy : query.groupBy with
  | none =>
      rw [isGroupBy] at suits
      cases suits
  | some keys =>
      rw [keysOf, isGroupBy, Option.getD_some] at empty
      exact regular.keyed (isGroupBy.trans (congrArg some empty))

theorem Regular.pageOf_of_excessive {query : Query} (regular : Regular query)
    (excessive : 100 < query.limit) : pageOf query = .error (.unplannable .excessiveLimit) := by
  have nonnegative := regular.offset
  have tooLarge : query.limit > Query.greatestLimit := excessive
  unfold pageOf Page.ofQuery
  rw [if_neg (by omega), if_neg (by omega), if_neg (by omega), if_pos tooLarge]
  rfl

/-- A regular query that suits its purpose is planned, unless there is one of two faults
of the caller. -/
theorem Regular.ofQuery_eq {query : Query} {purpose : Purpose} (regular : Regular query)
    (suits : query.check purpose = .ok ()) (settings : Settings) (owner : Uuid) :
    match refusal? query with
    | some fault => ofQuery settings owner query purpose = .error (.unplannable fault)
    | none => ∃ plan, ofQuery settings owner query purpose = .ok plan := by
  have keyed : purpose = .groups → keysOf query ≠ [] := by
    rintro rfl
    exact regular.keysOf_ne_nil suits
  rw [ofQuery_eq_assembled regular.leads keyed]
  unfold refusal?
  by_cases excessive : 100 < query.limit
  · rw [if_pos excessive, regular.pageOf_of_excessive excessive]
    rfl
  · have inBounds : InBounds query := ⟨regular.offset, regular.limit, by omega⟩
    have refuses := refusesOnly_pinsOf suits
    rw [if_neg excessive, pageOf_of_inBounds inBounds]
    cases misnamed : misnamedOf? query with
    | some value =>
        rw [misnamed] at refuses
        have refused : pinsOf query purpose = .error (.unplannable (.invalidSelector value)) :=
          refuses
        rw [refused]
        rfl
    | none =>
        rw [misnamed] at refuses
        obtain ⟨pins, pinned⟩ := refuses
        rw [pinned]
        exact ⟨_, rfl⟩

end Plan
end TestQuery
