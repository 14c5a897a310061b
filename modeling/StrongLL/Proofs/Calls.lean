/-!
# Systems that answer calls

A system is called time and again, and each call gives an answer and leaves it in another
state. Two systems whose states stay related give the same answers.
-/

namespace StrongLL.Calls

variable {State State' Call Answer : Type}

/-- The state behind calls. -/
def final (step : State → Call → State × Answer) (state : State) (calls : List Call) : State :=
  calls.foldl (fun state call => (step state call).1) state

/-- The answers to calls, in order. -/
def answers (step : State → Call → State × Answer) : State → List Call → List Answer
  | _, [] => []
  | state, call :: rest => (step state call).2 :: answers step (step state call).1 rest

/-- Related states answer every call alike and lead to related states again. -/
def Simulates (related : State → State' → Prop) (step : State → Call → State × Answer)
    (step' : State' → Call → State' × Answer) : Prop :=
  ∀ state state' call, related state state' →
    related (step state call).1 (step' state' call).1 ∧
      (step state call).2 = (step' state' call).2

theorem Simulates.run {related : State → State' → Prop}
    {step : State → Call → State × Answer} {step' : State' → Call → State' × Answer}
    (simulates : Simulates related step step') {state : State} {state' : State'}
    (start : related state state') (calls : List Call) :
    related (final step state calls) (final step' state' calls) ∧
      answers step state calls = answers step' state' calls := by
  induction calls generalizing state state' with
  | nil => exact ⟨start, rfl⟩
  | cons call rest ih =>
      obtain ⟨next, same⟩ := simulates state state' call start
      obtain ⟨behind, others⟩ := ih next
      exact ⟨behind, by rw [answers, answers, same, others]⟩

end StrongLL.Calls
