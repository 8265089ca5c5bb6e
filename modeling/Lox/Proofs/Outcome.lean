/-
How a computation ends that keeps a state, that may stop before its end and may go on forever. The
readers of tokens by their places and the scanners of bytes are of this kind.
-/

namespace Lox

variable {Stop State α β : Type}

/-- How a computation ends that starts in a state; one that goes on forever has no outcome. -/
def outcome (computation : ExceptT Stop (StateT State Option) α) (state : State) :
    Option (Except Stop α × State) :=
  computation state

variable {computation : ExceptT Stop (StateT State Option) α} {state after : State}

/-- What goes on from a result starts where it was reached. -/
theorem outcome_bind_ok {goOn : α → ExceptT Stop (StateT State Option) β} {value : α}
    (ended : outcome computation state = some (.ok value, after)) :
    outcome (computation >>= goOn) state = outcome (goOn value) after := by
  have first : computation state = some (.ok value, after) := ended
  show (computation state).bind (fun found => (ExceptT.bindCont goOn found.1) found.2) = _
  rw [first]
  rfl

/-- Nothing goes on from where a computation stops. -/
theorem outcome_bind_error {goOn : α → ExceptT Stop (StateT State Option) β} {stop : Stop}
    (ended : outcome computation state = some (.error stop, after)) :
    outcome (computation >>= goOn) state = some (.error stop, after) := by
  have first : computation state = some (.error stop, after) := ended
  show (computation state).bind (fun found => (ExceptT.bindCont goOn found.1) found.2) = _
  rw [first]
  rfl

theorem outcome_get_bind {goOn : State → ExceptT Stop (StateT State Option) β} :
    outcome (get >>= goOn) state = outcome (goOn state) state :=
  rfl

theorem outcome_modify_bind {change : State → State}
    {goOn : Unit → ExceptT Stop (StateT State Option) β} :
    outcome (modify change >>= goOn) state = outcome (goOn ()) (change state) :=
  rfl

/-- What is caught goes on where the computation stopped. -/
theorem outcome_tryCatch_error {handle : Stop → ExceptT Stop (StateT State Option) α} {stop : Stop}
    (ended : outcome computation state = some (.error stop, after)) :
    outcome (tryCatch computation handle) state = outcome (handle stop) after := by
  have first : computation state = some (.error stop, after) := ended
  show (computation state).bind (fun found => _) = _
  rw [first]
  rfl

theorem outcome_tryCatch_ok {handle : Stop → ExceptT Stop (StateT State Option) α} {value : α}
    (ended : outcome computation state = some (.ok value, after)) :
    outcome (tryCatch computation handle) state = some (.ok value, after) := by
  have first : computation state = some (.ok value, after) := ended
  show (computation state).bind (fun found => _) = _
  rw [first]
  rfl

/-! ### Outcomes from two states -/

variable {other : State} (same : outcome computation state = outcome computation other)

include same

theorem outcome_bind_congr (goOn : α → ExceptT Stop (StateT State Option) β) :
    outcome (computation >>= goOn) state = outcome (computation >>= goOn) other :=
  congrArg (fun ended => ended.bind fun found => (ExceptT.bindCont goOn found.1) found.2) same

theorem outcome_tryCatch_congr (handle : Stop → ExceptT Stop (StateT State Option) α) :
    outcome (tryCatch computation handle) state = outcome (tryCatch computation handle) other := by
  have first : computation state = computation other := same
  show (computation state).bind (fun found => _) = (computation other).bind (fun found => _)
  rw [first]

end Lox
