import TestQuery.Service.Exchange

namespace TestQuery
namespace Service
namespace Exchange

/-!
# Exchanges and their answers

What is answered in the course of an exchange decides how it goes on.  An exchange that
stops at the first wrong answer, and then badly, ends badly if and only if some answer
of the run was wrong.
-/

variable {α β γ : Type}

/-! ## Exchanges one after another -/

theorem bind_done (exchange : Exchange α) : exchange.bind .done = exchange := by
  induction exchange with
  | done result => rfl
  | send plan resume inductionHypothesis =>
      unfold Exchange.bind
      congr
      funext response
      exact inductionHypothesis response

theorem bind_bind (exchange : Exchange α) (next : α → Exchange β) (last : β → Exchange γ) :
    (exchange.bind next).bind last = exchange.bind fun result => (next result).bind last := by
  induction exchange with
  | done result => rfl
  | send plan resume inductionHypothesis =>
      simp only [Exchange.bind]
      congr
      funext response
      exact inductionHypothesis response

instance : LawfulMonad Exchange :=
  LawfulMonad.mk' Exchange bind_done (fun _ _ => rfl) bind_bind

/-! ## Answers -/

/-- The plans of a run, each with the answer to it. -/
def answered (respond : List Plan → Plan → Response) :
    List Plan → List Plan → List (Plan × Response)
  | _, [] => []
  | history, plan :: plans =>
    (plan, respond history plan) :: answered respond (plan :: history) plans

/-- A wrong answer ends the exchange, badly; where no answer is wrong it ends well. -/
inductive StopsAtWrong (wrong : Plan → Response → Prop) (bad : α → Prop) : Exchange α → Prop where
  | done {result : α} (good : ¬ bad result) : StopsAtWrong wrong bad (.done result)
  | send {plan : Plan} {resume : Response → Exchange α}
      (stops : ∀ response, wrong plan response →
        ∃ result, resume response = .done result ∧ bad result)
      (goesOn : ∀ response, ¬ wrong plan response → StopsAtWrong wrong bad (resume response)) :
      StopsAtWrong wrong bad (.send plan resume)

/-- A run ends badly if and only if it was given a wrong answer. -/
theorem StopsAtWrong.bad_iff {wrong : Plan → Response → Prop} {bad : α → Prop}
    {exchange : Exchange α} (stopsAtWrong : StopsAtWrong wrong bad exchange)
    (respond : List Plan → Plan → Response) (history : List Plan) :
    bad (exchange.runFrom respond history).2 ↔
      ∃ given ∈ answered respond history (exchange.runFrom respond history).1,
        wrong given.1 given.2 := by
  -- the history is general: every plan that is sent is added to it
  induction stopsAtWrong generalizing history with
  | done good => simp [runFrom, answered, good]
  | @send plan resume stops goesOn inductionHypothesis =>
      by_cases isWrong : wrong plan (respond history plan)
      · obtain ⟨result, ended, isBad⟩ := stops _ isWrong
        simp [runFrom, answered, ended, isBad, isWrong]
      · have others := inductionHypothesis _ isWrong (plan :: history)
        simpa [runFrom, answered, isWrong] using others

end Exchange
end Service
end TestQuery
