/-
A cursor over the bytes of a source. Where it is, is told by the text before the lexeme and the part
of the lexeme that is taken; each helper of the scanners is gone through at such a place. It looks
at the text that is left, stays between characters and never leaves the source.
-/

import Lox.Proofs.Outcome
import Lox.Proofs.Source.Bytes

namespace Lox.Source.Bytewise

/-! ### Cursors -/

/-- The cursor behind the taken part of a lexeme, which begins behind `before`. -/
def within (before inside : List Char) (line : Nat) : Cursor :=
  ⟨size before, size (before ++ inside), line, false⟩

variable {before inside rest : List Char} {line : Nat}

/-- Where the next character is taken, the source is the same. -/
theorem moved_past (before inside : List Char) (first : Char) (rest : List Char) :
    before ++ inside ++ first :: rest = before ++ (inside ++ [first]) ++ rest := by
  simp only [List.append_assoc, List.singleton_append]

theorem atEnd_outcome {taken : List Char} {cursor : Cursor} (isPlace : cursor.place = size taken) :
    outcome (atEnd (taken ++ rest)) cursor = some (.ok rest.isEmpty, cursor) := by
  have reached : decide (size (taken ++ rest) ≤ cursor.place) = rest.isEmpty := by
    rw [isPlace, size_append]
    cases rest with
    | nil => exact decide_eq_true (Nat.le_refl _)
    | cons first rest =>
      have positive := first.utf8Size_pos
      rw [size_cons]
      exact decide_eq_false (by omega)
  rw [← reached]
  rfl

theorem look_outcome (offset : Nat) :
    outcome (look (before ++ inside ++ rest) offset) (within before inside line) =
      some (.ok ((bytes rest).getD offset 0), within before inside line) := by
  have isThere : (bytes (before ++ inside ++ rest)).getD (size (before ++ inside) + offset) 0 =
      (bytes rest).getD offset 0 := by
    rw [bytes_append (before ++ inside) rest, size, List.getD_eq_getElem?_getD,
      List.getElem?_append_right (Nat.le_add_right _ _), Nat.add_sub_cancel_left,
      List.getD_eq_getElem?_getD]
  rw [← isThere]
  rfl

theorem moveOn_outcome (taken : List Char) {count : Nat} (isSize : size taken = count) :
    outcome (moveOn count) (within before inside line) =
      some (.ok (), within before (inside ++ taken) line) := by
  have moved : size (before ++ inside) + count = size (before ++ (inside ++ taken)) := by
    rw [← isSize, ← size_append, List.append_assoc]
  show some (Except.ok (), Cursor.mk (size before) (size (before ++ inside) + count) line false) = _
  rw [moved]
  rfl

/-- A character of ASCII is moved past. -/
theorem moveOn_ascii {char : Char} (ascii : Ascii char) :
    outcome (moveOn 1) (within before inside line) =
      some (.ok (), within before (inside ++ [char]) line) := by
  refine moveOn_outcome [char] ?_
  rw [size_cons, ascii.utf8Size]
  rfl

theorem moveToEnd_outcome :
    outcome (moveToEnd (before ++ inside ++ rest)) (within before inside line) =
      some (.ok (), within before (inside ++ rest) line) := by
  unfold within
  rw [← List.append_assoc]
  rfl

theorem countLines_outcome (passed : List Char) :
    outcome (countLines (bytes passed)) (within before inside line) =
      some (.ok (), within before inside (line + newlines passed)) := by
  rw [← count_newlines passed]
  rfl

theorem bytesLeft_outcome :
    outcome (bytesLeft (before ++ inside ++ rest)) (within before inside line) =
      some (.ok (bytes rest), within before inside line) := by
  have inRange : size (before ++ inside) ≤ size (before ++ inside ++ rest) := by
    rw [size_append (before ++ inside)]
    exact Nat.le_add_right _ _
  show outcome (Bytewise.inRange (if size (before ++ inside) ≤ size (before ++ inside ++ rest) then
    some ((bytes (before ++ inside ++ rest)).drop (size (before ++ inside))) else none)) _ = _
  rw [if_pos inRange, drop_bytes]
  rfl

theorem lexemeBytes_outcome :
    outcome (lexemeBytes (before ++ inside ++ rest)) (within before inside line) =
      some (.ok (bytes inside), within before inside line) := by
  have inRange : size before ≤ size (before ++ inside) ∧
      size (before ++ inside) ≤ size (before ++ inside ++ rest) := by
    rw [size_append (before ++ inside), size_append before]
    exact ⟨Nat.le_add_right _ _, Nat.le_add_right _ _⟩
  have isLexeme : ((bytes (before ++ inside ++ rest)).drop (size before)).take
      (size (before ++ inside) - size before) = bytes inside := by
    rw [List.append_assoc, drop_bytes, size_append, Nat.add_sub_cancel_left, take_bytes]
  show outcome (Bytewise.inRange (if size before ≤ size (before ++ inside) ∧
    size (before ++ inside) ≤ size (before ++ inside ++ rest) then
      some (((bytes (before ++ inside ++ rest)).drop (size before)).take
        (size (before ++ inside) - size before)) else none)) _ = _
  rw [if_pos inRange, isLexeme]
  rfl

/-- A part between characters is given as it is. -/
theorem between_outcome {taken middle : List Char} {cursor : Cursor} {source : List Char}
    {start stop : Nat} (isSource : source = taken ++ middle ++ rest) (isStart : size taken = start)
    (isStop : size (taken ++ middle) = stop) :
    outcome (between source start stop) cursor = some (.ok middle, cursor) := by
  subst isSource isStart isStop
  have isMiddle : (behind? (size taken) (taken ++ middle ++ rest)).bind
      (upTo? (size (taken ++ middle) - size taken)) = some middle := by
    rw [List.append_assoc, behind?_size, size_append, Nat.add_sub_cancel_left]
    exact upTo?_size middle rest
  have ordered : size taken ≤ size (taken ++ middle) := by
    rw [size_append]
    exact Nat.le_add_right _ _
  unfold between
  rw [if_pos ordered, isMiddle]
  rfl

theorem lexeme_outcome :
    outcome (lexeme (before ++ inside ++ rest)) (within before inside line) =
      some (.ok inside, within before inside line) :=
  between_outcome rfl rfl rfl

/-! ### Taking bytes -/

theorem begins_of_any {sign : Char} (begins : rest.head?.any (· == sign) = true) :
    ∃ after, rest = sign :: after := by
  cases rest with
  | nil => cases begins
  | cons first after => exact ⟨after, congrArg (· :: after) (eq_of_beq begins)⟩

/-- A sign is taken where it is next. -/
theorem eat_outcome {sign : Char} (plain : Plain (· == sign)) :
    outcome (eat (before ++ inside ++ rest) sign) (within before inside line) =
      some (.ok (rest.head?.any (· == sign)),
        within before (if rest.head?.any (· == sign) then inside ++ [sign] else inside) line) := by
  have ascii : Ascii sign := plain.ascii sign (beq_self_eq_true sign)
  have isNext : ((bytes rest).getD 0 0 == sign.toUInt8 && !rest.isEmpty) =
      rest.head?.any (· == sign) := by
    rw [ascii.beq_toUInt8, plain.head]
    cases rest with
    | nil => rfl
    | cons first rest => exact Bool.and_true _
  refine (outcome_bind_ok (look_outcome 0)).trans ((outcome_bind_ok (atEnd_outcome rfl)).trans ?_)
  rw [isNext]
  cases rest.head?.any (· == sign) with
  | true => exact (outcome_bind_ok (moveOn_ascii ascii)).trans rfl
  | false => rfl

theorem takeWhile_outcome {wanted : Char → Bool} (plain : Plain wanted) :
    outcome (takeWhile (before ++ inside ++ rest) wanted) (within before inside line) =
      some (.ok (), within before (inside ++ rest.takeWhile wanted) line) := by
  induction rest generalizing inside with
  | nil =>
    rw [takeWhile, outcome_bind_ok (look_outcome 0), plain.head, List.takeWhile_nil,
      List.append_nil inside]
    rfl
  | cons first rest inductionHypothesis =>
    rw [takeWhile, outcome_bind_ok (look_outcome 0), plain.head, List.takeWhile_cons]
    show outcome (if wanted first then _ else _) _ = _
    cases isWanted : wanted first with
    | false =>
      rw [if_neg Bool.false_ne_true, if_neg Bool.false_ne_true, List.append_nil]
      rfl
    | true =>
      rw [if_pos rfl, if_pos rfl, outcome_bind_ok (moveOn_ascii (plain.ascii first isWanted)),
        moved_past, List.append_cons inside first (rest.takeWhile wanted)]
      exact inductionHypothesis

end Lox.Source.Bytewise
