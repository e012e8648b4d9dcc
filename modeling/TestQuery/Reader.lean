namespace TestQuery

/-!
# Readers

A reader takes a list of symbols from its front and returns what it read with
the symbols that are left, or refuses.  A reader never returns more symbols than
it was given, and this bound is part of the type: it is what lets a repetition
be an ordinary recursion.  A `Consumer` is a reader that takes at least one
symbol whenever it succeeds.
-/

/-- A reader of `σ` symbols that refuses with an `ε`. -/
structure Reader (σ ε α : Type) where
  /-- The result and the symbols left over. -/
  run : List σ → Except ε (α × List σ)
  /-- Nothing is put back. -/
  bounded : ∀ {input result rest}, run input = .ok (result, rest) → rest.length ≤ input.length

namespace Reader

variable {σ ε α β : Type}

/-- Succeed without taking a symbol. -/
protected def pure (result : α) : Reader σ ε α where
  run input := .ok (result, input)
  bounded := by
    intro input result rest success
    cases success
    exact Nat.le_refl _

/-- Run one reader, then the reader that its result chooses. -/
protected def bind (first : Reader σ ε α) (next : α → Reader σ ε β) : Reader σ ε β where
  run input :=
    match first.run input with
    | .error refusal => .error refusal
    | .ok (result, rest) => (next result).run rest
  bounded := by
    intro input result rest success
    split at success
    · cases success
    · rename_i middle between firstSuccess
      exact Nat.le_trans ((next middle).bounded success) (first.bounded firstSuccess)

instance : Monad (Reader σ ε) where
  pure := Reader.pure
  bind := Reader.bind

def refuse (refusal : ε) : Reader σ ε α where
  run _ := .error refusal
  bounded := by
    intro input result rest success
    cases success

/-- Carry over a decision that needs no symbols. -/
def lift (decision : Except ε α) : Reader σ ε α :=
  match decision with
  | .ok result => Reader.pure result
  | .error refusal => refuse refusal

/-- Take all symbols up to the first that fails the test. -/
def takeWhile (test : σ → Bool) : Reader σ ε (List σ) where
  run input := .ok (input.takeWhile test, input.dropWhile test)
  bounded := by
    intro input result rest success
    cases success
    exact (List.dropWhile_suffix test).length_le

/-- Look at the next symbol without taking it. -/
def peek : Reader σ ε (Option σ) where
  run input := .ok (input.head?, input)
  bounded := by
    intro input result rest success
    cases success
    exact Nat.le_refl _

theorem ok_of_mapError {γ δ : Type} {reword : ε → δ} {outcome : Except ε γ} {result : γ}
    (success : outcome.mapError reword = .ok result) : outcome = .ok result := by
  cases outcome with
  | error refusal => cases success
  | ok found => cases success; rfl

def mapError {δ : Type} (reword : ε → δ) (reader : Reader σ ε α) : Reader σ δ α where
  run input := (reader.run input).mapError reword
  bounded success := reader.bounded (ok_of_mapError success)

theorem run_of_mapError {δ : Type} {reword : ε → δ} {reader : Reader σ ε α} {input rest : List σ}
    {result : α} (success : (reader.mapError reword).run input = .ok (result, rest)) :
    reader.run input = .ok (result, rest) :=
  ok_of_mapError success

/-- The reader takes a symbol whenever it succeeds. -/
def Consumes (reader : Reader σ ε α) : Prop :=
  ∀ {input result rest}, reader.run input = .ok (result, rest) → rest.length < input.length

theorem consumes_bind_of_left {first : Reader σ ε α} {next : α → Reader σ ε β}
    (consumes : first.Consumes) : (first >>= next).Consumes := by
  intro input result rest success
  simp only [bind, Reader.bind] at success
  split at success
  · cases success
  · rename_i middle between firstSuccess
    exact Nat.lt_of_le_of_lt ((next middle).bounded success) (consumes firstSuccess)

theorem consumes_bind_of_right {first : Reader σ ε α} {next : α → Reader σ ε β}
    (consumes : ∀ result, (next result).Consumes) : (first >>= next).Consumes := by
  intro input result rest success
  simp only [bind, Reader.bind] at success
  split at success
  · cases success
  · rename_i middle between firstSuccess
    exact Nat.lt_of_lt_of_le (consumes middle success) (first.bounded firstSuccess)

theorem consumes_refuse (refusal : ε) : (refuse refusal : Reader σ ε α).Consumes := by
  intro input result rest success
  cases success

end Reader

/-- A reader that takes at least one symbol. -/
structure Consumer (σ ε α : Type) extends Reader σ ε α where
  consumes : toReader.Consumes

namespace Consumer

variable {σ ε α β : Type}

/-- Take one symbol and decide what it means.  `atEnd` is the refusal when no
symbol is left. -/
def symbol (atEnd : ε) (decide : σ → Except ε α) : Consumer σ ε α where
  run
    | [] => .error atEnd
    | next :: rest =>
      match decide next with
      | .ok result => .ok (result, rest)
      | .error refusal => .error refusal
  bounded := by
    intro input result rest success
    split at success
    · cases success
    · split at success
      · cases success
        exact Nat.le_succ _
      · cases success
  consumes := by
    intro input result rest success
    simp only at success
    split at success
    · cases success
    · split at success
      · cases success
        exact Nat.lt_succ_self _
      · cases success

def refuse (refusal : ε) : Consumer σ ε α where
  toReader := Reader.refuse refusal
  consumes := Reader.consumes_refuse refusal

/-- Let the next symbol choose the consumer, which takes the symbol itself. -/
def choose (atEnd : ε) (chosen : σ → Consumer σ ε α) : Consumer σ ε α where
  run
    | [] => .error atEnd
    | next :: rest => (chosen next).run (next :: rest)
  bounded := by
    intro input result rest success
    split at success
    · cases success
    · exact (chosen _).bounded success
  consumes := by
    intro input result rest success
    simp only at success
    split at success
    · cases success
    · exact (chosen _).consumes success

def mapError {δ : Type} (reword : ε → δ) (consumer : Consumer σ ε α) : Consumer σ δ α where
  toReader := consumer.toReader.mapError reword
  consumes := by
    intro input result rest success
    exact consumer.consumes (Reader.run_of_mapError success)

/-- A reader followed by a consumer. -/
def after (first : Reader σ ε α) (next : α → Consumer σ ε β) : Consumer σ ε β where
  toReader := first >>= fun result => (next result).toReader
  consumes := Reader.consumes_bind_of_right fun result => (next result).consumes

/-- A consumer followed by any reader. -/
def andThen (first : Consumer σ ε α) (next : α → Reader σ ε β) : Consumer σ ε β where
  toReader := first.toReader >>= next
  consumes := Reader.consumes_bind_of_left first.consumes

instance : CoeOut (Consumer σ ε α) (Reader σ ε α) where
  coe := toReader

end Consumer

namespace Reader

variable {σ ε α β : Type}

/-! ## Repetition -/

/-- Read items for as long as the next symbol begins one.  `item` gives what
follows the symbol that begins an item. -/
def manyRun (item : σ → Option (Reader σ ε α)) (input : List σ) : Except ε (List α × List σ) :=
  match input with
  | [] => .ok ([], [])
  | next :: following =>
    match item next with
    | none => .ok ([], next :: following)
    | some body =>
      match _ : body.run following with
      | .error refusal => .error refusal
      | .ok (first, rest) =>
        match manyRun item rest with
        | .error refusal => .error refusal
        | .ok (others, remaining) => .ok (first :: others, remaining)
termination_by input.length
decreasing_by exact Nat.lt_succ_of_le (body.bounded ‹_›)

theorem manyRun_bounded {item : σ → Option (Reader σ ε α)} {input : List σ} {results : List α}
    {remaining : List σ} (success : manyRun item input = .ok (results, remaining)) :
    remaining.length ≤ input.length := by
  fun_induction manyRun item input generalizing results remaining with
  | case1 => cases success; exact Nat.le_refl _
  | case2 => cases success; exact Nat.le_refl _
  | case3 => cases success
  | case4 => cases success
  | case5 next following body _ first rest bodySuccess others left recursion hypothesis =>
    cases success
    exact Nat.le_trans (hypothesis recursion) (Nat.le_succ_of_le (body.bounded bodySuccess))

/-- Zero or more items, as many as begin. -/
def many (item : σ → Option (Reader σ ε α)) : Reader σ ε (List α) where
  run := manyRun item
  bounded := manyRun_bounded

/-- Read an item, then ask whether another follows, until none does. -/
def separatedRun (item : Consumer σ ε α) (another : Reader σ ε Bool) (input : List σ) :
    Except ε (List α × List σ) :=
  match _ : item.run input with
  | .error refusal => .error refusal
  | .ok (first, rest) =>
    match _ : another.run rest with
    | .error refusal => .error refusal
    | .ok (false, remaining) => .ok ([first], remaining)
    | .ok (true, following) =>
      match separatedRun item another following with
      | .error refusal => .error refusal
      | .ok (others, remaining) => .ok (first :: others, remaining)
termination_by input.length
decreasing_by exact Nat.lt_of_le_of_lt (another.bounded ‹_›) (item.consumes ‹_›)

theorem separatedRun_consumes {item : Consumer σ ε α} {another : Reader σ ε Bool}
    {input : List σ} {results : List α} {remaining : List σ}
    (success : separatedRun item another input = .ok (results, remaining)) :
    remaining.length < input.length := by
  fun_induction separatedRun item another input generalizing results remaining with
  | case1 => cases success
  | case2 => cases success
  | case3 input first rest itemSuccess left anotherSuccess =>
    cases success
    exact Nat.lt_of_le_of_lt (another.bounded anotherSuccess) (item.consumes itemSuccess)
  | case4 => cases success
  | case5 input first rest itemSuccess following anotherSuccess others left recursion hypothesis =>
    cases success
    exact Nat.lt_trans (hypothesis recursion)
      (Nat.lt_of_le_of_lt (another.bounded anotherSuccess) (item.consumes itemSuccess))

/-- One or more items, each followed by the answer whether another comes. -/
def separated (item : Consumer σ ε α) (another : Reader σ ε Bool) : Consumer σ ε (List α) where
  run := separatedRun item another
  bounded success := Nat.le_of_lt (separatedRun_consumes success)
  consumes success := separatedRun_consumes success

/-- Like `separatedRun`, but an item starts from what the items before it gave. -/
def accumulateRun (item : α → Consumer σ ε α) (another : Reader σ ε Bool) (start : α)
    (input : List σ) : Except ε (α × List σ) :=
  match _ : (item start).run input with
  | .error refusal => .error refusal
  | .ok (result, rest) =>
    match _ : another.run rest with
    | .error refusal => .error refusal
    | .ok (false, remaining) => .ok (result, remaining)
    | .ok (true, following) => accumulateRun item another result following
termination_by input.length
decreasing_by exact Nat.lt_of_le_of_lt (another.bounded ‹_›) ((item start).consumes ‹_›)

theorem accumulateRun_bounded {item : α → Consumer σ ε α} {another : Reader σ ε Bool}
    {start result : α} {input remaining : List σ}
    (success : accumulateRun item another start input = .ok (result, remaining)) :
    remaining.length ≤ input.length := by
  fun_induction accumulateRun item another start input generalizing result remaining with
  | case1 => cases success
  | case2 => cases success
  | case3 start input middle rest itemSuccess left anotherSuccess =>
    cases success
    exact Nat.le_trans (another.bounded anotherSuccess) ((item start).bounded itemSuccess)
  | case4 start input middle rest itemSuccess following anotherSuccess hypothesis =>
    exact Nat.le_trans (hypothesis success)
      (Nat.le_trans (another.bounded anotherSuccess) ((item start).bounded itemSuccess))

/-- One or more items that add to a result. -/
def accumulate (item : α → Consumer σ ε α) (another : Reader σ ε Bool) (start : α) :
    Reader σ ε α where
  run := accumulateRun item another start
  bounded := accumulateRun_bounded

/-- Read on until no symbol is left.  A step takes the next symbol and starts
from what the steps before it gave. -/
def untilEnd (step : α → σ → Reader σ ε α) (start : α) (input : List σ) : Except ε α :=
  match input with
  | [] => .ok start
  | next :: following =>
    match _ : (step start next).run following with
    | .error refusal => .error refusal
    | .ok (result, rest) => untilEnd step result rest
termination_by input.length
decreasing_by exact Nat.lt_succ_of_le ((step start next).bounded ‹_›)

end Reader

end TestQuery
