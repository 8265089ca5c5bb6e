/-
A text may reach a sink in fragments, and a fragment bit by bit: a sink takes of what it is offered
the bytes that fit, and refuses an offer of which no byte fits. All the same it keeps and reports
what it does when the text is written in one piece, wherever the fragments begin and end.
-/

import Lox.Machine.Sink

namespace Lox.Sink

/-! ### Beginnings of bytes -/

/-- The first bytes are all if there are no more. -/
theorem extract_whole {bytes : ByteArray} {count : Nat} (enough : bytes.size ≤ count) :
    bytes.extract 0 count = bytes := by
  have whole := @ByteArray.extract_zero_max_size bytes count
  rwa [Nat.max_eq_left enough] at whole

/-- The first bytes of two parts are those of the first part if it has as many. -/
theorem extract_first {first second : ByteArray} {count : Nat} (enough : count ≤ first.size) :
    (first ++ second).extract 0 count = first.extract 0 count := by
  rw [ByteArray.extract_append, Nat.zero_sub, Nat.sub_eq_zero_of_le enough, ByteArray.extract_same,
    ByteArray.append_empty]

/-- The first bytes of two parts are the first part and as many of the second as are left. -/
theorem extract_both (first second : ByteArray) (count : Nat) :
    (first ++ second).extract 0 (first.size + count) = first ++ second.extract 0 count := by
  rw [ByteArray.extract_append, Nat.zero_sub, Nat.add_sub_cancel_left,
    extract_whole (Nat.le_add_right _ _)]

variable (sink : Sink) (bytes : ByteArray)

/-! ### One piece -/

theorem room_le (count : Nat) : sink.room count ≤ count := by
  unfold room
  split
  · exact Nat.le_refl count
  · exact Nat.min_le_left _ _

/-- Behind a first part that fits there is room for as much as there would be together. -/
theorem room_add (first : ByteArray) (count : Nat) (fits : sink.room first.size = first.size) :
    sink.room (first.size + count) =
      first.size + Sink.room ⟨sink.bytes ++ first, sink.capacity⟩ count := by
  obtain ⟨kept, capacity⟩ := sink
  cases capacity with
  | none => rfl
  | some capacity =>
    have fits : min first.size (capacity - kept.size) = first.size := fits
    simp only [room, ByteArray.size_append]
    omega

theorem room_room (count : Nat) : sink.room (sink.room count) = sink.room count := by
  obtain ⟨kept, capacity⟩ := sink
  cases capacity with
  | none => rfl
  | some capacity =>
    simp only [room]
    omega

/-- Writing keeps the bytes that fit, and fails if there are more. -/
theorem write_eq : sink.write bytes =
    (if sink.room bytes.size < bytes.size then some .sinkFull else none,
      ⟨sink.bytes ++ bytes.extract 0 (sink.room bytes.size), sink.capacity⟩) := by
  unfold write
  dsimp only
  split
  · rfl
  · rename_i fits
    rw [Nat.le_antisymm (sink.room_le _) (Nat.not_lt.mp fits), ByteArray.extract_zero_size]

theorem write_empty : sink.write .empty = (none, sink) := by
  have noneLeft : ¬sink.room ByteArray.empty.size < ByteArray.empty.size := Nat.not_lt_zero _
  rw [write_eq, if_neg noneLeft, extract_whole (Nat.zero_le _), ByteArray.append_empty]

/-- Bytes are written as a first part of them that fits, and then the others. -/
theorem write_append (first second : ByteArray) (fits : sink.room first.size = first.size) :
    sink.write (first ++ second) =
      Sink.write ⟨sink.bytes ++ first, sink.capacity⟩ second := by
  rw [write_eq, write_eq, ByteArray.size_append, room_add _ _ _ fits, extract_both,
    ByteArray.append_assoc]
  simp only [Nat.add_lt_add_iff_left]

/-- After a problem with a first part, the others are not written. -/
theorem write_append_full (first second : ByteArray) (full : sink.room first.size < first.size) :
    sink.write (first ++ second) = sink.write first := by
  have same : sink.room (first ++ second).size = sink.room first.size := by
    unfold room at full ⊢
    rw [ByteArray.size_append]
    split at full <;> omega
  have fullToo : sink.room first.size < (first ++ second).size :=
    Nat.lt_of_lt_of_le full (ByteArray.size_append ▸ Nat.le_add_right _ _)
  rw [write_eq, write_eq, same, extract_first (sink.room_le _), if_pos full, if_pos fullToo]

/-! ### Offers -/

/-- What a sink does with bytes that it is offered: it takes the first ones, as many as fit, and
refuses if there are bytes and none of them fits. -/
def take : Option (Nat × Sink) :=
  let fitting := sink.room bytes.size
  if fitting = 0 ∧ 0 < bytes.size then none
  else some (fitting, ⟨sink.bytes ++ bytes.extract 0 fitting, sink.capacity⟩)

/-- A sink that refuses has no room. -/
theorem take_none (refuses : sink.take bytes = none) : sink.room bytes.size = 0 := by
  unfold take at refuses
  dsimp only at refuses
  split at refuses
  · rename_i noRoom
    exact noRoom.1
  · cases refuses

/-- A sink that takes bytes takes those for which there is room. -/
theorem take_some {taken : Nat} {after : Sink} (isTaken : sink.take bytes = some (taken, after)) :
    taken = sink.room bytes.size ∧ after = ⟨sink.bytes ++ bytes.extract 0 taken, sink.capacity⟩ ∧
      (0 < bytes.size → 0 < taken) := by
  unfold take at isTaken
  dsimp only at isTaken
  split at isTaken
  · cases isTaken
  · cases isTaken
    exact ⟨rfl, rfl, by omega⟩

/-- Offers bytes, and then those that were not taken, until all are taken or an offer is refused. -/
def offerAll (sink : Sink) (bytes : ByteArray) : Option OutputProblem × Sink :=
  if bytes.size = 0 then (none, sink)
  else
    match _found : sink.take bytes with
    | none => (some .sinkFull, sink)
    | some (taken, sink) => offerAll sink (bytes.extract taken bytes.size)
termination_by bytes.size
decreasing_by
  have advances := (take_some _ _ _found).2.2
  rw [ByteArray.size_extract]
  omega

/-- Offers all bytes of some fragments in order, up to the first problem. -/
def offerEach (sink : Sink) : List ByteArray → Option OutputProblem × Sink
  | [] => (none, sink)
  | fragment :: others =>
    match sink.offerAll fragment with
    | (none, sink) => offerEach sink others
    | (some problem, sink) => (some problem, sink)

/-- Offered until all bytes are taken or an offer is refused, bytes are written as in one piece. -/
theorem offerAll_eq : sink.offerAll bytes = sink.write bytes := by
  fun_induction offerAll sink bytes with
  | case1 sink bytes isEmpty =>
    rw [ByteArray.size_eq_zero_iff.mp isEmpty, write_empty]
  | case2 sink bytes nonempty refused =>
    rw [write_eq, take_none sink bytes refused, if_pos (Nat.pos_of_ne_zero nonempty),
      ByteArray.extract_same, ByteArray.append_empty]
  | case3 sink bytes nonempty taken after isTaken inductionHypothesis =>
    obtain ⟨rfl, rfl, _⟩ := take_some sink bytes isTaken
    have size : (bytes.extract 0 (sink.room bytes.size)).size = sink.room bytes.size := by
      rw [ByteArray.size_extract, Nat.min_eq_left (sink.room_le _), Nat.sub_zero]
    have fits : sink.room (bytes.extract 0 (sink.room bytes.size)).size =
        (bytes.extract 0 (sink.room bytes.size)).size := by
      rw [size, room_room]
    have parts : bytes.extract 0 (sink.room bytes.size) ++
        bytes.extract (sink.room bytes.size) bytes.size = bytes := by
      rw [ByteArray.extract_append_extract, Nat.zero_min, Nat.max_eq_right (sink.room_le _),
        ByteArray.extract_zero_size]
    rw [inductionHypothesis, ← write_append _ _ _ fits, parts]

/-- Offered in fragments, a text is written as in one piece. -/
theorem offerEach_eq (fragments : List ByteArray) :
    sink.offerEach fragments = sink.write (fragments.foldr (· ++ ·) .empty) := by
  induction fragments generalizing sink with
  | nil => exact sink.write_empty.symm
  | cons fragment others inductionHypothesis =>
    rw [offerEach, offerAll_eq, List.foldr_cons]
    rcases Nat.lt_or_eq_of_le (sink.room_le fragment.size) with full | fits
    · rw [write_append_full _ _ _ full, write_eq, if_pos full]
    · rw [write_append _ _ _ fits, write_eq, fits, if_neg (Nat.lt_irrefl _),
        ByteArray.extract_zero_size]
      exact inductionHypothesis _

end Lox.Sink
