import TestQuery.Reader

namespace TestQuery

/-!
# How readers run

The combinators by the inputs on which they succeed.  A chain of readers succeeds
where each of them does, one after the other; a repetition succeeds where its
items can be told apart one by one.  Proofs about a reader use these statements
and do not open the combinators again.
-/

namespace Reader

variable {σ ε α β : Type}

/-! ## Single steps -/

@[simp] theorem run_peek (input : List σ) :
    (peek : Reader σ ε (Option σ)).run input = .ok (input.head?, input) := rfl

@[simp] theorem run_lift (decision : Except ε α) (input : List σ) :
    (lift decision : Reader σ ε α).run input = decision.map (·, input) := by
  cases decision <;> rfl

@[simp] theorem run_andThen (first : Consumer σ ε α) (next : α → Reader σ ε β) :
    (first.andThen next).run = (first.toReader >>= next).run := rfl

theorem run_bind (first : Reader σ ε α) (next : α → Reader σ ε β) (input : List σ) :
    (first >>= next).run input =
      match first.run input with
      | .error refusal => .error refusal
      | .ok (result, rest) => (next result).run rest := rfl

/-- Two readers in a row succeed where the first does and the second does after it. -/
theorem run_bind_of_ok {first : Reader σ ε α} {next : α → Reader σ ε β} {input rest : List σ}
    {result : α} (success : first.run input = .ok (result, rest)) :
    (first >>= next).run input = (next result).run rest := by
  rw [run_bind, success]

theorem run_bind_eq_ok_iff {first : Reader σ ε α} {next : α → Reader σ ε β}
    {input rest : List σ} {result : β} :
    (first >>= next).run input = .ok (result, rest) ↔
      ∃ middle between, first.run input = .ok (middle, between) ∧
        (next middle).run between = .ok (result, rest) := by
  constructor
  · intro success
    rw [run_bind] at success
    split at success
    · cases success
    · rename_i middle between firstSuccess
      exact ⟨middle, between, firstSuccess, success⟩
  · rintro ⟨middle, between, firstSuccess, success⟩
    rw [run_bind_of_ok firstSuccess, success]

theorem run_symbol_cons (atEnd : ε) (decide : σ → Except ε α) (next : σ) (rest : List σ) :
    (Consumer.symbol atEnd decide).run (next :: rest) = (decide next).map (·, rest) := by
  cases decision : decide next <;> simp only [Consumer.symbol, decision] <;> rfl

/-- The reader takes exactly these symbols from the front of whatever it is given. -/
def Takes (reader : Reader σ ε α) (front : List σ) (result : α) : Prop :=
  ∀ rest, reader.run (front ++ rest) = .ok (result, rest)

theorem takes_pure (result : α) : (pure result : Reader σ ε α).Takes [] result :=
  fun _ => rfl

theorem takes_symbol {decide : σ → Except ε α} {next : σ} {result : α}
    (decided : decide next = .ok result) (atEnd : ε) :
    (Consumer.symbol atEnd decide).toReader.Takes [next] result := by
  intro rest
  rw [List.singleton_append, run_symbol_cons, decided]
  rfl

theorem Takes.bind {first : Reader σ ε α} {next : α → Reader σ ε β} {front back : List σ}
    {middle : α} {result : β} (takes : first.Takes front middle)
    (takesNext : (next middle).Takes back result) :
    (first >>= next).Takes (front ++ back) result := by
  intro rest
  rw [List.append_assoc, run_bind_of_ok (takes _), takesNext]

/-- One that takes nothing more may follow. -/
theorem Takes.bind_pure {first : Reader σ ε α} {front : List σ} {middle : α}
    (takes : first.Takes front middle) {next : α → Reader σ ε β} {result : β}
    (same : next middle = pure result) : (first >>= next).Takes front result := by
  have both : (first >>= next).Takes (front ++ []) result := takes.bind (same ▸ takes_pure result)
  rwa [List.append_nil] at both

theorem Takes.mapError {δ : Type} {reword : ε → δ} {reader : Reader σ ε α} {front : List σ}
    {result : α} (takes : reader.Takes front result) :
    (reader.mapError reword).Takes front result := by
  intro rest
  change (reader.run (front ++ rest)).mapError reword = _
  rw [takes rest]
  rfl

/-! ## One step of a repetition -/

theorem manyRun_of_none {item : σ → Option (Reader σ ε α)} {next : σ}
    (ends : item next = none) (following : List σ) :
    manyRun item (next :: following) = .ok ([], next :: following) := by
  rw [manyRun, ends]

/-- An item that begins is read, and then the others. -/
theorem manyRun_of_some {item : σ → Option (Reader σ ε α)} {next : σ} {body : Reader σ ε α}
    (begins : item next = some body) (following : List σ) :
    manyRun item (next :: following) =
      body.run following >>= fun first =>
        (manyRun item first.2).map fun others => (first.1 :: others.1, others.2) := by
  rw [manyRun, begins]
  dsimp only
  split
  · rename_i failure
    rw [failure]
    rfl
  · rename_i rest success
    rw [success]
    change _ = (manyRun item rest).map _
    cases manyRun item rest <;> rfl

/-- An item, then the answer whether another follows. -/
theorem separatedRun_eq (item : Consumer σ ε α) (another : Reader σ ε Bool) (input : List σ) :
    separatedRun item another input =
      item.run input >>= fun first =>
        another.run first.2 >>= fun answer =>
          if answer.1 then
            (separatedRun item another answer.2).map fun others => (first.1 :: others.1, others.2)
          else .ok ([first.1], answer.2) := by
  rw [separatedRun]
  split
  · rename_i failure
    rw [failure]
    rfl
  · rename_i rest success
    rw [success]
    change _ = another.run rest >>= _
    split
    · rename_i failure
      rw [failure]
      rfl
    · rename_i ends
      rw [ends]
      rfl
    · rename_i following continues
      rw [continues]
      change _ = (separatedRun item another following).map _
      cases separatedRun item another following <;> rfl

/-- An item that starts from what was read, then the answer whether another follows. -/
theorem accumulateRun_eq (item : α → Consumer σ ε α) (another : Reader σ ε Bool) (start : α)
    (input : List σ) :
    accumulateRun item another start input =
      (item start).run input >>= fun reached =>
        another.run reached.2 >>= fun answer =>
          if answer.1 then accumulateRun item another reached.1 answer.2
          else .ok (reached.1, answer.2) := by
  rw [accumulateRun]
  split
  · rename_i failure
    rw [failure]
    rfl
  · rename_i rest success
    rw [success]
    change _ = another.run rest >>= _
    split
    · rename_i failure
      rw [failure]
      rfl
    · rename_i ends
      rw [ends]
      rfl
    · rename_i continues
      rw [continues]
      rfl

theorem untilEnd_cons (step : α → σ → Reader σ ε α) (start : α) (next : σ) (following : List σ) :
    untilEnd step start (next :: following) =
      (step start next).run following >>= fun reached => untilEnd step reached.1 reached.2 := by
  rw [untilEnd]
  split
  · rename_i failure
    rw [failure]
    rfl
  · rename_i success
    rw [success]
    rfl

/-! ## Repetition -/

/-- The runs of `many`: items for as long as the next symbol begins one. -/
inductive Repeated (item : σ → Option (Reader σ ε α)) : List σ → List α → List σ → Prop where
  | stop {input : List σ} (ends : ∀ next ∈ input.head?, item next = none) :
      Repeated item input [] input
  | step {next : σ} {following middle rest : List σ} {body : Reader σ ε α} {first : α}
      {others : List α} (begins : item next = some body)
      (success : body.run following = .ok (first, middle))
      (repeated : Repeated item middle others rest) :
      Repeated item (next :: following) (first :: others) rest

theorem manyRun_eq_ok_iff {item : σ → Option (Reader σ ε α)} {input rest : List σ}
    {results : List α} :
    manyRun item input = .ok (results, rest) ↔ Repeated item input results rest := by
  constructor
  · intro success
    fun_induction manyRun item input generalizing results rest with
    | case1 =>
        cases success
        exact .stop (fun next member => by cases member)
    | case2 next following ends =>
        cases success
        exact .stop (fun other member => by cases member; exact ends)
    | case3 => cases success
    | case4 => cases success
    | case5 next following body begins first middle bodySuccess others left recursion hypothesis =>
        cases success
        exact .step begins bodySuccess (hypothesis recursion)
  · intro repeated
    induction repeated with
    | @stop input ends =>
        cases input with
        | nil => rw [manyRun]
        | cons next following => rw [manyRun, ends next rfl]
    | step begins success repeated inductionHypothesis =>
        rw [manyRun, begins]
        dsimp only
        split
        · rename_i failure
          cases success.symm.trans failure
        · rename_i bodySuccess
          cases success.symm.trans bodySuccess
          rw [inductionHypothesis]

/-- The runs of `separated`: an item, then the answer whether another follows. -/
inductive Separated (item : Consumer σ ε α) (another : Reader σ ε Bool) :
    List σ → List α → List σ → Prop where
  | last {input middle rest : List σ} {only : α} (success : item.run input = .ok (only, middle))
      (ends : another.run middle = .ok (false, rest)) : Separated item another input [only] rest
  | more {input middle following rest : List σ} {first : α} {others : List α}
      (success : item.run input = .ok (first, middle))
      (continues : another.run middle = .ok (true, following))
      (separated : Separated item another following others rest) :
      Separated item another input (first :: others) rest

theorem separatedRun_eq_ok_iff {item : Consumer σ ε α} {another : Reader σ ε Bool}
    {input rest : List σ} {results : List α} :
    separatedRun item another input = .ok (results, rest) ↔
      Separated item another input results rest := by
  constructor
  · intro success
    fun_induction separatedRun item another input generalizing results rest with
    | case1 => cases success
    | case2 => cases success
    | case3 input first middle itemSuccess left ends =>
        cases success
        exact .last itemSuccess ends
    | case4 => cases success
    | case5 input first middle itemSuccess following continues others left recursion hypothesis =>
        cases success
        exact .more itemSuccess continues (hypothesis recursion)
  · intro separated
    induction separated with
    | last success ends =>
        rw [separatedRun]
        split
        · rename_i failure
          cases success.symm.trans failure
        · rename_i itemSuccess
          cases success.symm.trans itemSuccess
          split
          · rename_i failure
            cases ends.symm.trans failure
          · rename_i anotherSuccess
            cases ends.symm.trans anotherSuccess
            rfl
          · rename_i anotherSuccess
            cases ends.symm.trans anotherSuccess
    | more success continues separated inductionHypothesis =>
        rw [separatedRun]
        split
        · rename_i failure
          cases success.symm.trans failure
        · rename_i itemSuccess
          cases success.symm.trans itemSuccess
          split
          · rename_i failure
            cases continues.symm.trans failure
          · rename_i anotherSuccess
            cases continues.symm.trans anotherSuccess
          · rename_i anotherSuccess
            cases continues.symm.trans anotherSuccess
            rw [inductionHypothesis]

/-- The runs of `untilEnd`: steps until no symbol is left. -/
inductive Completed (step : α → σ → Reader σ ε α) : α → List σ → α → Prop where
  | stop {start : α} : Completed step start [] start
  | step {start middle result : α} {next : σ} {following rest : List σ}
      (success : (step start next).run following = .ok (middle, rest))
      (completed : Completed step middle rest result) :
      Completed step start (next :: following) result

theorem untilEnd_eq_ok_iff {step : α → σ → Reader σ ε α} {start result : α} {input : List σ} :
    untilEnd step start input = .ok result ↔ Completed step start input result := by
  constructor
  · intro success
    fun_induction untilEnd step start input with
    | case1 =>
        cases success
        exact .stop
    | case2 => cases success
    | case3 start next following middle rest stepSuccess hypothesis =>
        exact .step stepSuccess (hypothesis success)
  · intro completed
    induction completed with
    | stop => rw [untilEnd]
    | step success completed inductionHypothesis =>
        rw [untilEnd]
        split
        · rename_i failure
          cases success.symm.trans failure
        · rename_i stepSuccess
          cases success.symm.trans stepSuccess
          exact inductionHypothesis

end Reader

end TestQuery
