import TestQuery.Json
import Mathlib.Data.List.Induction

namespace TestQuery
namespace Json

/-!
# Fields in order

Fields are set one after the other, each at the place of its key.  So the keys are in strictly
increasing order at any time, and a key has the value that was set last.  These two facts leave
no choice: ordered fields are told by the values of their keys, and it does not matter in which
order fields with different keys are set.
-/

section

variable {α : Type}

/-- The keys are in strictly increasing order. -/
def Ordered (fields : List (String × α)) : Prop :=
  fields.Pairwise fun first second => first.1 < second.1

theorem lt_of_not_lt_of_ne {key other : String} (notBefore : ¬ key < other)
    (different : ¬ key = other) : other < key :=
  Std.lt_of_le_of_ne (String.not_lt.mp notBefore) fun same => different same.symm

theorem lookup_cons_of_ne {key other : String} (different : key ≠ other) (value : α)
    (fields : List (String × α)) :
    List.lookup key ((other, value) :: fields) = fields.lookup key := by
  rw [List.lookup_cons, beq_eq_false_iff_ne.mpr different]

/-- A key before all others has no value. -/
theorem lookup_of_before {key : String} {fields : List (String × α)}
    (before : ∀ field ∈ fields, key < field.1) : fields.lookup key = none := by
  apply List.lookup_eq_none_iff.mpr
  intro field member
  apply bne_iff_ne.mpr
  intro same
  have impossible := before field member
  rw [same] at impossible
  exact String.lt_irrefl _ impossible

/-! ## Setting a field -/

theorem lookup_setField_self (key : String) (value : α) (fields : List (String × α)) :
    (setField key value fields).lookup key = some value := by
  fun_induction setField key value fields with
  | case1 => exact List.lookup_cons_self
  | case2 => exact List.lookup_cons_self
  | case3 => exact List.lookup_cons_self
  | case4 other kept rest notBefore different inductionHypothesis =>
      rw [lookup_cons_of_ne different]
      exact inductionHypothesis

theorem lookup_setField_of_ne {key other : String} (different : other ≠ key) (value : α)
    (fields : List (String × α)) :
    (setField key value fields).lookup other = fields.lookup other := by
  fun_induction setField key value fields with
  | case1 => exact lookup_cons_of_ne different value []
  | case2 => exact lookup_cons_of_ne different value _
  | case3 => rw [lookup_cons_of_ne different, lookup_cons_of_ne different]
  | case4 first kept rest notBefore notFirst inductionHypothesis =>
      rw [List.lookup_cons, List.lookup_cons, inductionHypothesis]

theorem mem_setField {key : String} {value : α} {fields : List (String × α)} {field : String × α}
    (member : field ∈ setField key value fields) : field = (key, value) ∨ field ∈ fields := by
  fun_induction setField key value fields with
  | case1 => exact .inl (List.mem_singleton.mp member)
  | case2 => exact List.mem_cons.mp member
  | case3 kept rest =>
      rcases List.mem_cons.mp member with isSet | later
      · exact .inl isSet
      · exact .inr (List.mem_cons_of_mem _ later)
  | case4 other kept rest notBefore different inductionHypothesis =>
      rcases List.mem_cons.mp member with isFirst | later
      · exact .inr (isFirst ▸ List.mem_cons_self)
      · rcases inductionHypothesis later with isSet | kept
        · exact .inl isSet
        · exact .inr (List.mem_cons_of_mem _ kept)

theorem ordered_setField {fields : List (String × α)} (ordered : Ordered fields) (key : String)
    (value : α) : Ordered (setField key value fields) := by
  fun_induction setField key value fields with
  | case1 => exact List.pairwise_singleton _ _
  | case2 other kept rest before =>
      apply List.pairwise_cons.mpr
      refine ⟨List.forall_mem_cons.mpr ⟨before, ?_⟩, ordered⟩
      intro field member
      exact String.lt_trans before ((List.pairwise_cons.mp ordered).1 field member)
  | case3 kept rest => exact List.pairwise_cons.mpr (List.pairwise_cons.mp ordered)
  | case4 other kept rest notBefore different inductionHypothesis =>
      rcases List.pairwise_cons.mp ordered with ⟨first, others⟩
      apply List.pairwise_cons.mpr
      refine ⟨?_, inductionHypothesis others⟩
      intro field member
      rcases mem_setField member with rfl | kept
      · exact lt_of_not_lt_of_ne notBefore different
      · exact first field kept

/-! ## Ordered fields -/

/-- No key that has a value comes before the first. -/
theorem Ordered.not_before_first {key first : String} {value firstValue : α}
    {fields : List (String × α)} (ordered : Ordered ((first, firstValue) :: fields))
    (found : ((first, firstValue) :: fields).lookup key = some value) : ¬ key < first := by
  intro before
  have later := (List.pairwise_cons.mp ordered).1
  have all : ∀ field ∈ (first, firstValue) :: fields, key < field.1 :=
    List.forall_mem_cons.mpr
      ⟨before, fun field member => String.lt_trans before (later field member)⟩
  rw [lookup_of_before all] at found
  cases found

/-- Ordered fields are told by the values of their keys. -/
theorem Ordered.ext {left right : List (String × α)} (orderedLeft : Ordered left)
    (orderedRight : Ordered right) (same : ∀ key, left.lookup key = right.lookup key) :
    left = right := by
  induction left generalizing right with
  | nil =>
      cases right with
      | nil => rfl
      | cons field right =>
          have impossible := same field.1
          rw [List.lookup_cons_self] at impossible
          cases impossible
  | cons field left inductionHypothesis =>
      cases right with
      | nil =>
          have impossible := same field.1
          rw [List.lookup_cons_self] at impossible
          cases impossible
      | cons other right =>
          rcases field with ⟨key, value⟩
          rcases other with ⟨otherKey, otherValue⟩
          rcases List.pairwise_cons.mp orderedLeft with ⟨first, orderedRest⟩
          rcases List.pairwise_cons.mp orderedRight with ⟨otherFirst, orderedOthers⟩
          have sameKey : key = otherKey := by
            by_contra different
            have notBefore := orderedRight.not_before_first
              ((same key).symm.trans List.lookup_cons_self)
            have notAfter := orderedLeft.not_before_first
              ((same otherKey).trans List.lookup_cons_self)
            exact notAfter (lt_of_not_lt_of_ne notBefore different)
          subst sameKey
          have sameValue := same key
          rw [List.lookup_cons_self, List.lookup_cons_self] at sameValue
          have sameRest : ∀ other, left.lookup other = right.lookup other := by
            intro other
            by_cases isFirst : other = key
            · rw [isFirst, lookup_of_before first, lookup_of_before otherFirst]
            · have sameOther := same other
              rwa [lookup_cons_of_ne isFirst, lookup_cons_of_ne isFirst] at sameOther
          rw [Option.some.inj sameValue, inductionHypothesis orderedRest orderedOthers sameRest]

theorem Ordered.nodup {fields : List (String × α)} (ordered : Ordered fields) :
    (fields.map Prod.fst).Nodup := by
  apply List.pairwise_map.mpr
  apply List.Pairwise.imp _ ordered
  intro first second before same
  rw [same] at before
  exact String.lt_irrefl _ before

/-- A field is there if it is the one that its key leads to. -/
theorem Ordered.mem_iff {fields : List (String × α)} (ordered : Ordered fields) {key : String}
    {value : α} : (key, value) ∈ fields ↔ fields.lookup key = some value := by
  induction fields with
  | nil => exact ⟨fun impossible => absurd impossible List.not_mem_nil, nofun⟩
  | cons field fields inductionHypothesis =>
      rcases field with ⟨first, firstValue⟩
      rcases List.pairwise_cons.mp ordered with ⟨before, orderedRest⟩
      rw [List.mem_cons, Prod.mk.injEq, inductionHypothesis orderedRest]
      by_cases isFirst : key = first
      · subst isFirst
        rw [List.lookup_cons_self, lookup_of_before before, Option.some.injEq]
        constructor
        · rintro (⟨-, same⟩ | impossible)
          · exact same.symm
          · cases impossible
        · intro same
          exact .inl ⟨rfl, same.symm⟩
      · rw [lookup_cons_of_ne isFirst]
        exact or_iff_right fun same => isFirst same.1

theorem mem_keys_iff {fields : List (String × α)} {key : String} :
    key ∈ fields.map Prod.fst ↔ fields.lookup key ≠ none := by
  rw [Ne, List.lookup_eq_none_iff, List.mem_map]
  constructor
  · rintro ⟨field, member, rfl⟩ absent
    exact absurd rfl (bne_iff_ne.mp (absent field member))
  · intro present
    by_contra absent
    apply present
    intro field member
    exact bne_iff_ne.mpr fun same => absent ⟨field, member, same.symm⟩

/-! ## Setting fields one after the other -/

/-- One more field is set last. -/
theorem sortFields_concat (fields : List (String × α)) (key : String) (value : α) :
    sortFields (fields ++ [(key, value)]) = setField key value (sortFields fields) := by
  rw [sortFields, List.foldl_append]
  rfl

theorem ordered_sortFields (fields : List (String × α)) : Ordered (sortFields fields) := by
  induction fields using List.reverseRecOn with
  | nil => exact .nil
  | append_singleton fields field inductionHypothesis =>
      rw [sortFields_concat]
      exact ordered_setField inductionHypothesis _ _

/-- A key has the value that it was given last. -/
theorem lookup_sortFields (fields : List (String × α)) (key : String) :
    (sortFields fields).lookup key = fields.reverse.lookup key := by
  induction fields using List.reverseRecOn with
  | nil => rfl
  | append_singleton fields field inductionHypothesis =>
      rcases field with ⟨other, value⟩
      rw [sortFields_concat, List.reverse_concat]
      by_cases isOther : key = other
      · rw [isOther, lookup_setField_self, List.lookup_cons_self]
      · rw [lookup_setField_of_ne isOther, lookup_cons_of_ne isOther, inductionHypothesis]

theorem mem_keys_sortFields {fields : List (String × α)} {key : String} :
    key ∈ (sortFields fields).map Prod.fst ↔ key ∈ fields.map Prod.fst := by
  rw [mem_keys_iff, lookup_sortFields, ← mem_keys_iff, List.map_reverse, List.mem_reverse]

/-- A field is kept if no later one has its key. -/
theorem mem_sortFields_iff {fields : List (String × α)} {key : String} {value : α} :
    (key, value) ∈ sortFields fields ↔
      ∃ front back, fields = front ++ (key, value) :: back ∧ ∀ later ∈ back, later.1 ≠ key := by
  rw [(ordered_sortFields fields).mem_iff, lookup_sortFields, List.lookup_eq_some_iff]
  constructor
  · rintro ⟨back, front, split, different⟩
    refine ⟨front.reverse, back.reverse, ?_, ?_⟩
    · rw [← List.reverse_reverse fields, split]
      simp
    · intro later member same
      exact bne_iff_ne.mp (different later (List.mem_reverse.mp member)) same.symm
  · rintro ⟨front, back, rfl, different⟩
    refine ⟨back.reverse, front.reverse, by simp, ?_⟩
    intro later member
    exact bne_iff_ne.mpr fun same => different later (List.mem_reverse.mp member) same.symm

/-- Where no key is there twice, the order of the fields does not matter to a key's value. -/
theorem lookup_of_perm {fields others : List (String × α)} (once : (fields.map Prod.fst).Nodup)
    (reordered : fields.Perm others) (key : String) : fields.lookup key = others.lookup key := by
  induction reordered with
  | nil => rfl
  | cons field _ inductionHypothesis =>
      rw [List.map_cons, List.nodup_cons] at once
      rw [List.lookup_cons, List.lookup_cons, inductionHypothesis once.2]
  | swap first second rest =>
      rw [List.map_cons, List.map_cons, List.nodup_cons, List.mem_cons, not_or] at once
      rcases first with ⟨firstKey, first⟩
      rcases second with ⟨secondKey, second⟩
      by_cases isFirst : key = firstKey
      · have notSecond : key ≠ secondKey := fun same => once.1.1 (same.symm.trans isFirst)
        rw [lookup_cons_of_ne notSecond, isFirst, List.lookup_cons_self, List.lookup_cons_self]
      · rw [lookup_cons_of_ne isFirst, List.lookup_cons, lookup_cons_of_ne isFirst,
          List.lookup_cons]
  | trans first second firstHypothesis secondHypothesis =>
      rw [firstHypothesis once, secondHypothesis ((first.map Prod.fst).nodup_iff.mp once)]

/-- Fields with different keys may be set in any order. -/
theorem sortFields_of_perm {fields others : List (String × α)}
    (once : (fields.map Prod.fst).Nodup) (reordered : fields.Perm others) :
    sortFields fields = sortFields others := by
  apply (ordered_sortFields fields).ext (ordered_sortFields others)
  intro key
  have onceReversed : (fields.reverse.map Prod.fst).Nodup :=
    ((fields.reverse_perm.map Prod.fst).nodup_iff).mpr once
  rw [lookup_sortFields, lookup_sortFields]
  exact lookup_of_perm onceReversed
    ((fields.reverse_perm.trans reordered).trans others.reverse_perm.symm) key

/-- Fields that are in order stay as they are. -/
theorem sortFields_of_ordered {fields : List (String × α)} (ordered : Ordered fields) :
    sortFields fields = fields := by
  apply (ordered_sortFields fields).ext ordered
  intro key
  rw [lookup_sortFields]
  exact (lookup_of_perm ordered.nodup fields.reverse_perm.symm key).symm

end

end Json
end TestQuery
