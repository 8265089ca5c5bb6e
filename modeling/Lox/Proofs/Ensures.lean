/-
Parsers and runs both change a state and end with a result or with an error. This file says what
such a computation ensures from a state on, once for both, so that a fact about a long computation
is put together from facts about its parts. The second half compares it with another computation, of
which is known only that it does the same wherever the first one gets to.
-/

namespace Lox

variable {Problem State Value Other : Type}

/-! ### One behind the other -/

section

variable {run : EStateM Problem State Value} {next : Value → EStateM Problem State Other}
  {state after : State}

/-- What goes on from a result starts where it was reached. -/
theorem bind_ok {value : Value} (ended : run state = .ok value after) :
    (run >>= next) state = next value after := by
  show EStateM.bind run next state = _
  unfold EStateM.bind
  rw [ended]

/-- Nothing goes on from an error. -/
theorem bind_error {problem : Problem} (ended : run state = .error problem after) :
    (run >>= next) state = .error problem after := by
  show EStateM.bind run next state = _
  unfold EStateM.bind
  rw [ended]

end

/-! ### One computation -/

/-- From a state on, the computation ends with a result and a state that satisfy `result`, or with
an error and a state that satisfy `failure`. -/
def Ensures (run : EStateM Problem State Value) (state : State) (result : Value → State → Prop)
    (failure : Problem → State → Prop) : Prop :=
  match run state with
  | .ok value after => result value after
  | .error problem after => failure problem after

namespace Ensures

variable {run : EStateM Problem State Value} {next : Value → EStateM Problem State Other}
  {state : State} {result : Value → State → Prop} {failure : Problem → State → Prop}

theorem of_ok {value : Value} {after : State} (ended : run state = .ok value after)
    (holds : result value after) : Ensures run state result failure := by
  unfold Ensures
  rw [ended]
  exact holds

theorem of_error {problem : Problem} {after : State} (ended : run state = .error problem after)
    (holds : failure problem after) : Ensures run state result failure := by
  unfold Ensures
  rw [ended]
  exact holds

/-- What is ensured holds of a result that is reached. -/
theorem ok (ensured : Ensures run state result failure) {value : Value} {after : State}
    (ended : run state = .ok value after) : result value after := by
  unfold Ensures at ensured
  rw [ended] at ensured
  exact ensured

/-- What is ensured holds of an error that is reached. -/
theorem error (ensured : Ensures run state result failure) {problem : Problem} {after : State}
    (ended : run state = .error problem after) : failure problem after := by
  unfold Ensures at ensured
  rw [ended] at ensured
  exact ensured

/-- A computation and what goes on from its result. What goes on may use that the first part ended
with the result. -/
theorem bind {first : Value → State → Prop} {second : Other → State → Prop}
    (start : Ensures run state first failure)
    (rest : ∀ value after, run state = .ok value after → first value after →
      Ensures (next value) after second failure) :
    Ensures (run >>= next) state second failure := by
  show match EStateM.bind run next state with
    | .ok value after => second value after
    | .error problem after => failure problem after
  unfold EStateM.bind
  cases ended : run state with
  | ok value after => exact rest value after ended (start.ok ended)
  | error problem after => exact start.error ended

theorem pure {value : Value} (holds : result value state) :
    Ensures (Pure.pure value) state result failure :=
  holds

theorem throw {problem : Problem} (holds : failure problem state) :
    Ensures (MonadExcept.throw problem) state result failure :=
  holds

/-- What is ensured may be weakened. -/
theorem mono {weaker : Value → State → Prop} {milder : Problem → State → Prop}
    (ensured : Ensures run state result failure)
    (results : ∀ value after, result value after → weaker value after)
    (failures : ∀ problem after, failure problem after → milder problem after) :
    Ensures run state weaker milder := by
  unfold Ensures at ensured ⊢
  split
  · rename_i value after ended
    rw [ended] at ensured
    exact results value after ensured
  · rename_i problem after ended
    rw [ended] at ensured
    exact failures problem after ensured

end Ensures

/-! ### Two computations that do the same -/

/-- From a state on, the other computation does the same as the first, which ensures something. -/
def Alike (run other : EStateM Problem State Value) (state : State)
    (result : Value → State → Prop) (failure : Problem → State → Prop) : Prop :=
  other state = run state ∧ Ensures run state result failure

namespace Alike

variable {run other : EStateM Problem State Value} {state : State}
  {result : Value → State → Prop} {failure : Problem → State → Prop}

/-- One computation is like itself. -/
theorem refl (ensured : Ensures run state result failure) : Alike run run state result failure :=
  ⟨rfl, ensured⟩

/-- Two computations that do the same, and what goes on from their common result. -/
theorem bind {next otherNext : Value → EStateM Problem State Other}
    {first : Value → State → Prop} {second : Other → State → Prop}
    (start : Alike run other state first failure)
    (rest : ∀ value after, run state = .ok value after → first value after →
      Alike (next value) (otherNext value) after second failure) :
    Alike (run >>= next) (other >>= otherNext) state second failure := by
  refine ⟨?_, start.2.bind fun value after ended holds => (rest value after ended holds).2⟩
  show EStateM.bind other otherNext state = EStateM.bind run next state
  unfold EStateM.bind
  rw [start.1]
  cases ended : run state with
  | ok value after => exact (rest value after ended (start.2.ok ended)).1
  | error problem after => rfl

theorem mono {weaker : Value → State → Prop} {milder : Problem → State → Prop}
    (alike : Alike run other state result failure)
    (results : ∀ value after, result value after → weaker value after)
    (failures : ∀ problem after, failure problem after → milder problem after) :
    Alike run other state weaker milder :=
  ⟨alike.1, alike.2.mono results failures⟩

end Alike

end Lox
