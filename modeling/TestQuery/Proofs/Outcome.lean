import Mathlib.Data.List.Forall2

namespace TestQuery

/-!
# Outcomes that may fail

One step after another succeeds if each of them does, and a list of steps if every step of it
does; the first that fails decides how they fail together.
-/

variable {ε α β : Type}

theorem bind_eq_ok_iff {first : Except ε α} {next : α → Except ε β} {result : β} :
    first >>= next = .ok result ↔ ∃ middle, first = .ok middle ∧ next middle = .ok result := by
  cases first with
  | error fault => simp [bind, Except.bind]
  | ok middle => simp [bind, Except.bind]

theorem mapM_eq_ok_iff {step : α → Except ε β} {items : List α} {results : List β} :
    items.mapM step = .ok results ↔
      List.Forall₂ (fun item result => step item = .ok result) items results := by
  induction items generalizing results with
  | nil =>
      rw [List.mapM_nil, List.forall₂_nil_left_iff]
      exact ⟨fun done => (Except.ok.inj done).symm, fun none => none ▸ rfl⟩
  | cons item items inductionHypothesis =>
      simp only [List.mapM_cons, bind_eq_ok_iff, inductionHypothesis]
      constructor
      · intro success
        rcases success with ⟨result, done, others, doneOthers, same⟩
        cases same
        exact .cons done doneOthers
      · intro success
        cases success with
        | cons done doneOthers => exact ⟨_, done, _, doneOthers, rfl⟩

theorem mapM_of_first_error {step : α → Except ε β} {front back : List α} {item : α} {fault : ε}
    (before : ∀ earlier ∈ front, ∃ result, step earlier = .ok result)
    (failed : step item = .error fault) : (front ++ item :: back).mapM step = .error fault := by
  induction front with
  | nil =>
      rw [List.nil_append, List.mapM_cons, failed]
      rfl
  | cons first front inductionHypothesis =>
      rcases List.forall_mem_cons.mp before with ⟨⟨result, done⟩, others⟩
      rw [List.cons_append, List.mapM_cons, done, inductionHypothesis others]
      rfl

theorem exists_forall₂_iff {related : α → β → Prop} {items : List α} :
    (∃ results, List.Forall₂ related items results) ↔
      ∀ item ∈ items, ∃ result, related item result := by
  induction items with
  | nil => exact ⟨fun _ => List.forall_mem_nil _, fun _ => ⟨[], .nil⟩⟩
  | cons item items inductionHypothesis =>
      rw [List.forall_mem_cons, ← inductionHypothesis]
      constructor
      · intro all
        rcases all with ⟨_, _ | ⟨isFirst, others⟩⟩
        exact ⟨⟨_, isFirst⟩, _, others⟩
      · intro each
        rcases each with ⟨⟨result, isFirst⟩, results, others⟩
        exact ⟨result :: results, .cons isFirst others⟩

/-! ## Failures -/

/-- There is no result. -/
def Fails (outcome : Except ε α) : Prop :=
  ∃ fault, outcome = .error fault

theorem fails_iff {outcome : Except ε α} : Fails outcome ↔ ∀ result, outcome ≠ .ok result := by
  cases outcome with
  | error fault => simp [Fails]
  | ok result => simp [Fails]

theorem fails_bind_iff {first : Except ε α} {next : α → Except ε β} :
    Fails (first >>= next) ↔ Fails first ∨ ∃ middle, first = .ok middle ∧ Fails (next middle) := by
  cases first with
  | error fault => simp [Fails, bind, Except.bind]
  | ok middle => simp [Fails, bind, Except.bind]

theorem not_fails_pure (result : α) : ¬ Fails (pure result : Except ε α) := by
  intro fails
  rcases fails with ⟨fault, impossible⟩
  cases impossible

theorem fails_mapM_iff {step : α → Except ε β} {items : List α} :
    Fails (items.mapM step) ↔ ∃ item ∈ items, Fails (step item) := by
  have succeeds : (∃ results, items.mapM step = .ok results) ↔
      ∀ item ∈ items, ∃ result, step item = .ok result := by
    simp only [mapM_eq_ok_iff, exists_forall₂_iff]
  simp only [fails_iff, ← not_exists, succeeds]
  simp only [not_forall, exists_prop]

end TestQuery
