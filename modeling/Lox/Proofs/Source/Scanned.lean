/-
Scanning by bytes finds the pieces of the text. What begins with a character is gone through for
each kind of piece, and the items follow by induction on what is left. So every search comes to its
end within the bytes, no character is ever cut, and what is given away is what is read off the
pieces, on their lines.
-/

import Lox.Proofs.Source.Cursor
import Lox.Proofs.Source.Written

namespace Lox.Source.Bytewise

variable {before inside rest : List Char} {line : Nat}

/-! ### What is found -/

/-- What a scanner gives for a piece that begins on the line `line`. -/
def found (line : Nat) : Piece → Except Stop (Option TokenKind)
  | .token kind _ => .ok (some kind)
  | .blank _ => .ok none
  | .comment _ => .ok none
  | .stray char => .error (.error ⟨line, .strayCharacter char⟩)
  | .openString text => .error (.error ⟨line + newlines text, .openString⟩)
  | .openComment _ => .error (.error ⟨line, .openComment⟩)

/-- How a scanner ends that has taken a piece. -/
def taken (before : List Char) (line : Nat) (piece : Piece) :
    Option (Except Stop (Option TokenKind) × Cursor) :=
  some (found line piece, within before piece.text (line + newlines piece.text))

/-- A text without a line end. -/
theorem newlines_eq_zero {text : List Char} (absent : '\n' ∉ text) : newlines text = 0 :=
  List.count_eq_zero.mpr absent

theorem newlines_append_chars (first second : List Char) :
    newlines (first ++ second) = newlines first + newlines second :=
  List.count_append

theorem taken_token (before : List Char) (line : Nat) (kind : TokenKind) {text : List Char}
    (onLine : newlines text = 0) :
    taken before line (.token kind text) = some (.ok (some kind), within before text line) := by
  show some (_, within before text (line + newlines text)) = _
  rw [onLine]
  rfl

theorem taken_mark (before : List Char) (line : Nat) (mark : Mark) :
    taken before line (.ofMark mark) =
      some (.ok (some (.mark mark)), within before mark.spelling.toList line) :=
  taken_token before line _ (by cases mark <;> rfl)

theorem taken_stray (before : List Char) (line : Nat) {char : Char} (notEnd : char ≠ '\n') :
    taken before line (.stray char) =
      some (.error (.error ⟨line, .strayCharacter char⟩), within before [char] line) := by
  have onLine : newlines [char] = 0 :=
    newlines_eq_zero fun member => notEnd (List.mem_singleton.mp member).symm
  show some (_, within before [char] (line + newlines [char])) = _
  rw [onLine]
  rfl

/-! ### Marks -/

theorem withEqual_outcome {single double : Mark} {first : Char}
    (isSingle : single.spelling.toList = [first])
    (isDouble : double.spelling.toList = [first, '=']) :
    outcome (do return some (← withEqual (before ++ [first] ++ rest) single double))
      (within before [first] line) = taken before line (Source.withEqual single double rest) := by
  have plain : Plain (· == '=') := plain_sign (by decide) (by decide)
  refine (outcome_bind_ok (outcome_bind_ok (eat_outcome plain))).trans ?_
  cases follows : rest.head?.any (· == '=') with
  | true =>
    obtain ⟨after, rfl⟩ := begins_of_any follows
    rw [Source.withEqual, taken_mark, isDouble]
    rfl
  | false =>
    have single : Source.withEqual single double rest = .ofMark single := by
      unfold Source.withEqual
      split
      · cases follows
      · rfl
    rw [single, taken_mark, isSingle]
    rfl

/-! ### Comments -/

/-- A text is all before a character, or it is cut at the first one. -/
theorem span_cases (char : Char) (text : List Char) :
    (char ∉ text ∧ text.takeWhile (· != char) = text ∧ text.dropWhile (· != char) = []) ∨
      ∃ after, text = text.takeWhile (· != char) ++ char :: after ∧
        text.dropWhile (· != char) = char :: after := by
  have both : text.takeWhile (· != char) ++ text.dropWhile (· != char) = text :=
    List.takeWhile_append_dropWhile
  cases behind : text.dropWhile (· != char) with
  | nil =>
    rw [behind, List.append_nil] at both
    exact .inl ⟨both ▸ not_mem_takeWhile text char, both, rfl⟩
  | cons first after =>
    have isChar : (first != char) = false :=
      head?_dropWhile first (by rw [behind]; rfl)
    obtain rfl : first = char := by simpa using isChar
    exact .inr ⟨after, (behind ▸ both).symm, rfl⟩

theorem skipLine_outcome :
    outcome (skipLine (before ++ inside ++ rest)) (within before inside line) =
      some (.ok (), within before (inside ++ rest.takeWhile (· != '\n')) line) := by
  have ascii : Ascii '\n' := by decide
  refine (outcome_bind_ok bytesLeft_outcome).trans ?_
  rcases span_cases '\n' rest with ⟨absent, isAll, _⟩ | ⟨after, isRest, _⟩
  · rw [ascii.idxOf?_none absent, isAll]
    exact moveToEnd_outcome
  · have isNext := ascii.idxOf?_some (not_mem_takeWhile rest '\n') after
    rw [← isRest] at isNext
    rw [isNext]
    exact moveOn_outcome _ rfl

theorem skipBlockComment_closed {inside after : List Char} (unclosed : ¬closingSign <:+: inside) :
    outcome (skipBlockComment (before ++ ['/', '*'] ++ (inside ++ (closingSign ++ after))))
        (within before ['/', '*'] line) =
      some (.ok (), within before ('/' :: '*' :: (inside ++ closingSign))
        (line + newlines inside)) := by
  refine (outcome_bind_ok bytesLeft_outcome).trans ?_
  rw [find?_closed unclosed]
  dsimp only
  rw [take_bytes, outcome_bind_ok (countLines_outcome inside)]
  refine moveOn_outcome (inside ++ closingSign) ?_
  rw [size_append]
  rfl

theorem skipBlockComment_open (unclosed : ¬closingSign <:+: rest) :
    outcome (skipBlockComment (before ++ ['/', '*'] ++ rest)) (within before ['/', '*'] line) =
      some (.error (.error ⟨line, .openComment⟩),
        within before ('/' :: '*' :: rest) (line + newlines rest)) := by
  refine (outcome_bind_ok bytesLeft_outcome).trans ?_
  rw [find?_open unclosed]
  refine outcome_get_bind.trans ?_
  refine (outcome_bind_ok (countLines_outcome rest)).trans ?_
  exact outcome_bind_ok moveToEnd_outcome

/-- A block comment is passed over, or reported where none of it is closed. -/
theorem takePiece_block :
    outcome (do skipBlockComment (before ++ ['/', '*'] ++ rest); return none)
      (within before ['/', '*'] line) = taken before line (slashPiece ('*' :: rest)) := by
  cases closes : commentLength 0 rest with
  | some length =>
    obtain ⟨inside, after, isRest, unclosed, isLength⟩ := commentLength_some closes
    rw [List.append_assoc] at isRest
    subst isRest
    have isPiece : slashPiece ('*' :: (inside ++ (closingSign ++ after))) =
        .comment ('/' :: '*' :: (inside ++ closingSign)) := by
      rw [slashPiece, closes, isLength, Nat.zero_add, ← List.append_assoc]
      exact congrArg (fun text => Piece.comment ('/' :: '*' :: text)) List.take_left
    have passed : newlines (inside ++ closingSign) = newlines inside :=
      newlines_append_chars inside closingSign
    rw [isPiece]
    refine (outcome_bind_ok (skipBlockComment_closed unclosed)).trans ?_
    rw [← passed]
    rfl
  | none =>
    have isPiece : slashPiece ('*' :: rest) = .openComment ('/' :: '*' :: rest) := by
      rw [slashPiece, closes]
    rw [isPiece]
    exact outcome_bind_error (skipBlockComment_open (commentLength_none closes))

/-- What begins with a slash is told by the character behind it. -/
theorem takePiece_slash :
    outcome (takePiece (before ++ ['/'] ++ rest) '/') (within before ['/'] line) =
      taken before line (slashPiece rest) := by
  have slash : Plain (· == '/') := plain_sign (by decide) (by decide)
  have star : Plain (· == '*') := plain_sign (by decide) (by decide)
  refine (outcome_bind_ok (eat_outcome slash)).trans ?_
  cases isLine : rest.head?.any (· == '/') with
  | true =>
    obtain ⟨inLine, rfl⟩ := begins_of_any isLine
    have onLine : newlines ('/' :: '/' :: inLine.takeWhile (· != '\n')) = 0 :=
      newlines_eq_zero (by simp [not_mem_takeWhile])
    rw [moved_past]
    refine (outcome_bind_ok skipLine_outcome).trans ?_
    rw [slashPiece, taken, Piece.text, onLine]
    rfl
  | false =>
    refine (outcome_bind_ok (eat_outcome star)).trans ?_
    cases isBlock : rest.head?.any (· == '*') with
    | true =>
      obtain ⟨inBlock, rfl⟩ := begins_of_any isBlock
      rw [moved_past]
      show outcome (do skipBlockComment (before ++ ['/', '*'] ++ inBlock); return none)
        (within before ['/', '*'] line) = _
      exact takePiece_block
    | false =>
      have single : slashPiece rest = .ofMark .slash := by
        unfold slashPiece
        split
        · cases isLine
        · cases isBlock
        · rfl
      rw [single, taken_mark]
      rfl

/-! ### Strings -/

theorem string_closed {inside after : List Char} (absent : '"' ∉ inside) :
    outcome (string (before ++ ['"'] ++ (inside ++ '"' :: after))) (within before ['"'] line) =
      some (.ok (.string (String.ofList inside)), within before ('"' :: (inside ++ ['"']))
        (line + newlines inside)) := by
  have isPlace : size (before ++ ['"'] ++ inside) = size (before ++ ['"']) + size inside :=
    size_append _ inside
  refine (outcome_bind_ok bytesLeft_outcome).trans ?_
  rw [Ascii.idxOf?_some (by decide) absent after]
  dsimp only
  rw [take_bytes, outcome_bind_ok (countLines_outcome inside)]
  refine outcome_get_bind.trans ?_
  refine (outcome_bind_ok (between_outcome (List.append_assoc _ inside ('"' :: after)).symm rfl
    isPlace)).trans ?_
  have isSize : size (inside ++ ['"']) = size inside + 1 := size_append inside ['"']
  exact (outcome_bind_ok (moveOn_outcome _ isSize)).trans rfl

theorem string_open (absent : '"' ∉ rest) :
    outcome (string (before ++ ['"'] ++ rest)) (within before ['"'] line) =
      some (.error (.error ⟨line + newlines rest, .openString⟩),
        within before ('"' :: rest) (line + newlines rest)) := by
  refine (outcome_bind_ok bytesLeft_outcome).trans ?_
  rw [Ascii.idxOf?_none (by decide) absent]
  refine (outcome_bind_ok (countLines_outcome rest)).trans ?_
  exact outcome_bind_ok moveToEnd_outcome

theorem takePiece_quote :
    outcome (takePiece (before ++ ['"'] ++ rest) '"') (within before ['"'] line) =
      taken before line (stringPiece rest) := by
  rcases span_cases '"' rest with ⟨absent, isAll, isNothing⟩ | ⟨after, isRest, isBehind⟩
  · have isPiece : stringPiece rest = .openString ('"' :: rest) := by
      simp only [stringPiece, isNothing]
    rw [isPiece]
    exact outcome_bind_error (string_open absent)
  · generalize isInside : rest.takeWhile (· != '"') = inside at isRest
    have absent : '"' ∉ inside := isInside ▸ not_mem_takeWhile rest '"'
    subst isRest
    have passed : newlines (inside ++ ['"']) = newlines inside :=
      newlines_append_chars inside ['"']
    rw [stringPiece_closed absent]
    refine (outcome_bind_ok (string_closed absent)).trans ?_
    rw [← passed]
    rfl

/-! ### Numbers -/

/-- The source, cut behind a run of characters. -/
theorem append_span (before : List Char) (first : Char) (rest : List Char)
    (wanted : Char → Bool) : before ++ [first] ++ rest =
      before ++ (first :: rest.takeWhile wanted) ++ rest.dropWhile wanted := by
  simp only [List.append_assoc, List.cons_append, List.nil_append,
    List.takeWhile_append_dropWhile]

/-- The digits behind a point. -/
def decimalsOf : List Char → List Char
  | '.' :: rest => rest.takeWhile Char.isDigit
  | _ => []

theorem numberDigits_eq (text : List Char) : numberDigits text =
    (text.takeWhile Char.isDigit, decimalsOf (text.dropWhile Char.isDigit)) := by
  unfold numberDigits
  generalize text.dropWhile Char.isDigit = behind
  dsimp only
  split
  · rfl
  · rename_i noPoint
    rw [decimalsOf]
    exact noPoint

theorem isDigit_of_mem_decimalsOf (text : List Char) :
    ∀ char ∈ decimalsOf text, char.isDigit = true := by
  unfold decimalsOf
  split
  · exact fun char member => List.mem_takeWhile_imp member
  · exact nofun

theorem takeDecimals_outcome :
    outcome (takeDecimals (before ++ inside ++ rest)) (within before inside line) =
      some (.ok (), within before (numberText (inside, decimalsOf rest)) line) := by
  refine (outcome_bind_ok (look_outcome 0)).trans ((outcome_bind_ok (look_outcome 1)).trans ?_)
  have plain : Plain (· == '.') := plain_sign (by decide) (by decide)
  rw [Ascii.beq_toUInt8 (by decide), plain.head]
  cases follows : rest.head?.any (· == '.') with
  | false =>
    have none : decimalsOf rest = [] := by
      unfold decimalsOf
      split
      · cases follows
      · rfl
    rw [none]
    rfl
  | true =>
    obtain ⟨others, rfl⟩ := begins_of_any follows
    have second : (bytes ('.' :: others)).getD 1 0 = (bytes others).getD 0 0 := rfl
    rw [Bool.true_and, second, plain_isDigit.head, decimalsOf]
    cases others with
    | nil => rfl
    | cons digit others =>
      rw [List.takeWhile_cons]
      show outcome (if digit.isDigit then _ else _) _ = _
      cases isDigit : digit.isDigit with
      | false => rfl
      | true =>
        rw [if_pos rfl, if_pos rfl, moved_past,
          outcome_bind_ok (moveOn_ascii (plain.ascii '.' rfl)),
          takeWhile_outcome plain_isDigit, List.takeWhile_cons, isDigit, if_pos rfl,
          ← List.append_cons]
        rfl

/-- The number that is spelled by the digits of a number is that number. -/
theorem decimal?_numberText {digits decimals : List Char} (nonempty : digits ≠ [])
    (areDigits : ∀ char ∈ digits, char.isDigit = true)
    (areDecimals : ∀ char ∈ decimals, char.isDigit = true) :
    decimal? (numberText (digits, decimals)) = some (numberValue (digits, decimals)) := by
  have isDigits := numberDigits_ended .nil areDigits areDecimals
  rw [List.append_nil] at isDigits
  rw [decimal?, isDigits]
  exact if_pos ⟨nonempty, rfl⟩

/-- The line does not end inside a number. -/
theorem newlines_numberText {digits decimals : List Char}
    (areDigits : ∀ char ∈ digits, char.isDigit = true)
    (areDecimals : ∀ char ∈ decimals, char.isDigit = true) :
    newlines (numberText (digits, decimals)) = 0 := by
  have noDigit : '\n' ∉ digits := fun member => absurd (areDigits _ member) (by decide)
  have noDecimal : '\n' ∉ decimals := fun member => absurd (areDecimals _ member) (by decide)
  refine newlines_eq_zero ?_
  cases decimals with
  | nil => exact noDigit
  | cons decimal decimals =>
    exact fun member => (List.mem_append.mp member).elim noDigit
      fun behind => (List.mem_cons.mp behind).elim (by decide) noDecimal

theorem takeNumber_outcome {first : Char} (isDigit : first.isDigit = true) :
    outcome (do return some (← number (before ++ [first] ++ rest))) (within before [first] line) =
      taken before line (numberPiece (first :: rest)) := by
  have isDigits : numberDigits (first :: rest) =
      (first :: rest.takeWhile Char.isDigit, decimalsOf (rest.dropWhile Char.isDigit)) := by
    rw [numberDigits_eq, List.takeWhile_cons, List.dropWhile_cons, if_pos isDigit, if_pos isDigit]
  have areDigits : ∀ char ∈ first :: rest.takeWhile Char.isDigit, char.isDigit = true :=
    List.forall_mem_cons.mpr ⟨isDigit, fun char member => List.mem_takeWhile_imp member⟩
  have areDecimals := isDigit_of_mem_decimalsOf (rest.dropWhile Char.isDigit)
  have decimals : outcome (takeDecimals (before ++ [first] ++ rest))
      (within before (first :: rest.takeWhile Char.isDigit) line) =
        some (.ok (), within before (numberText (numberDigits (first :: rest))) line) := by
    rw [append_span before first rest Char.isDigit, isDigits]
    exact takeDecimals_outcome
  have text : outcome (lexeme (before ++ [first] ++ rest))
      (within before (numberText (numberDigits (first :: rest))) line) =
        some (.ok (numberText (numberDigits (first :: rest))),
          within before (numberText (numberDigits (first :: rest))) line) := by
    obtain ⟨inside, after, isText, isRest⟩ := (first_takes first rest).text
    rw [first_of_isDigit isDigit] at isText
    have isSource : before ++ [first] ++ rest =
        before ++ numberText (numberDigits (first :: rest)) ++ after := by
      rw [show numberText (numberDigits (first :: rest)) = first :: inside from isText, isRest]
      simp only [List.append_assoc, List.cons_append, List.nil_append]
    rw [isSource]
    exact lexeme_outcome
  have value : decimal? (numberText (numberDigits (first :: rest))) =
      some (numberValue (numberDigits (first :: rest))) := by
    rw [isDigits]
    exact decimal?_numberText (List.cons_ne_nil _ _) areDigits areDecimals
  have onLine : newlines (numberText (numberDigits (first :: rest))) = 0 := by
    rw [isDigits]
    exact newlines_numberText areDigits areDecimals
  rw [numberPiece, taken_token _ _ _ onLine]
  refine outcome_bind_ok ?_
  rw [number, outcome_bind_ok (takeWhile_outcome plain_isDigit)]
  refine (outcome_bind_ok decimals).trans ((outcome_bind_ok text).trans ?_)
  rw [value]
  rfl

/-! ### Words -/

theorem takeWord_outcome {first : Char} (starts : startsName first = true) :
    outcome (do return some (← word (before ++ [first] ++ rest))) (within before [first] line) =
      taken before line (wordPiece first rest) := by
  have continues : ∀ char ∈ first :: rest.takeWhile continuesName, continuesName char = true :=
    List.forall_mem_cons.mpr
      ⟨continuesName_of_startsName starts, fun char member => List.mem_takeWhile_imp member⟩
  have onLine : newlines (first :: rest.takeWhile continuesName) = 0 :=
    newlines_eq_zero fun member => absurd (continues _ member) (by decide)
  have spelling : outcome (lexemeBytes (before ++ [first] ++ rest))
      (within before (first :: rest.takeWhile continuesName) line) =
        some (.ok (bytes (first :: rest.takeWhile continuesName)),
          within before (first :: rest.takeWhile continuesName) line) := by
    rw [append_span before first rest continuesName]
    exact lexemeBytes_outcome
  have isReserved : (Mark.reserved.find? fun mark =>
      bytes mark.spelling.toList == bytes (first :: rest.takeWhile continuesName)) =
        Mark.reserved? (String.ofList (first :: rest.takeWhile continuesName)) := by
    refine congrArg (Mark.reserved.find? ·) (funext fun mark => Bool.eq_iff_iff.mpr ?_)
    rw [beq_iff_eq, beq_iff_eq, bytes_injective.eq_iff, ← String.toList_inj, String.toList_ofList]
  have isWord : outcome (word (before ++ [first] ++ rest)) (within before [first] line) =
      some (.ok (((Mark.reserved? (String.ofList (first :: rest.takeWhile continuesName))).map
        TokenKind.mark).getD .identifier),
          within before (first :: rest.takeWhile continuesName) line) := by
    rw [word, outcome_bind_ok (takeWhile_outcome plain_continuesName), ← isReserved]
    exact outcome_bind_ok spelling
  unfold wordPiece
  dsimp only
  cases isMark : Mark.reserved? (String.ofList (first :: rest.takeWhile continuesName)) with
  | some mark =>
    rw [isMark] at isWord
    exact (outcome_bind_ok isWord).trans (taken_token _ _ _ onLine).symm
  | none =>
    rw [isMark] at isWord
    exact (outcome_bind_ok isWord).trans (taken_token _ _ _ onLine).symm

/-! ### Pieces -/

/-- The character of which a byte was taken is taken as a whole. -/
theorem stray_outcome {first : Char} (place : Nat) :
    outcome (stray (before ++ first :: rest)) ⟨size before, place, line, false⟩ =
      some (.error (.error ⟨line, .strayCharacter first⟩), within before [first] line) := by
  have isSize : size before + first.utf8Size = size (before ++ [first]) := by
    rw [size_append, size_cons]
    rfl
  have isChar : outcome (inRange (behind? (size before) (before ++ first :: rest)))
      ⟨size before, place, line, false⟩ =
        some (.ok (first :: rest), ⟨size before, place, line, false⟩) := by
    rw [behind?_size]
    rfl
  refine (outcome_bind_ok isChar).trans ?_
  show some (Except.error (Stop.error ⟨line, .strayCharacter first⟩),
    Cursor.mk (size before) (size before + first.utf8Size) line false) = _
  rw [isSize]
  rfl

/-- Behind what is no sign stands a number, a word, or nothing. -/
theorem takePiece_of_notSign {first : Char} (notSign : isSign first = false)
    (source : List Char) :
    takePiece source first =
      if first.isDigit then do return some (← number source)
      else if startsName first then do return some (← word source)
      else stray source := by
  simp only [isSign, isBlank, Bool.or_eq_false_iff, Option.isSome_eq_false_iff,
    Option.isNone_iff_eq_none, decide_eq_false_iff_not, List.mem_cons, List.not_mem_nil, or_false,
    not_or, beq_eq_false_iff_ne] at notSign
  obtain ⟨⟨notLone, notBang, notEqual, notLess, notGreater, notSlash, notQuote⟩,
    ⟨⟨notSpace, notTab⟩, notReturn⟩, notNewline⟩ := notSign
  simp only [takePiece, notLone, notBang, notEqual, notLess, notGreater, notSlash, notQuote,
    notSpace, notTab, notReturn, notNewline, or_self, if_false]

theorem takePiece_outcome {first : Char} :
    outcome (takePiece (before ++ [first] ++ rest) first) (within before [first] line) =
      taken before line (Piece.first first rest) := by
  cases sign : isSign first with
  | true =>
    simp only [isSign, Bool.or_eq_true, decide_eq_true_eq] at sign
    rcases sign with (isLone | listed) | blank
    · obtain ⟨mark, isMark⟩ := Option.isSome_iff_exists.mp isLone
      rw [takePiece, Piece.first, isMark]
      dsimp only
      rw [taken_mark, loneMark?_spelling first isMark]
      rfl
    · simp only [List.mem_cons, List.not_mem_nil, or_false] at listed
      rcases listed with rfl | rfl | rfl | rfl | rfl | rfl
      · exact withEqual_outcome rfl rfl
      · exact withEqual_outcome rfl rfl
      · exact withEqual_outcome rfl rfl
      · exact withEqual_outcome rfl rfl
      · exact takePiece_slash
      · exact takePiece_quote
    · rw [first_of_isBlank blank]
      rcases isBlank_cases blank with rfl | rfl | rfl | rfl <;> rfl
  | false =>
    rw [takePiece_of_notSign sign, first_of_notSign sign]
    split_ifs with isDigit starts
    · exact takeNumber_outcome isDigit
    · exact takeWord_outcome starts
    · rw [taken_stray before line (by rintro rfl; cases sign), ← List.append_cons]
      exact stray_outcome _

/-- The first byte of a character is taken. -/
theorem advance_outcome {first : Char} {byte : UInt8} {others : List UInt8}
    (isFirst : String.utf8EncodeChar first = byte :: others) :
    outcome (advance (before ++ first :: rest)) ⟨size before, size before, line, false⟩ =
      some (.ok byte, ⟨size before, size before + 1, line, false⟩) := by
  have isThere : (bytes (before ++ first :: rest))[size before]? = some byte := by
    rw [bytes_append, size, List.getElem?_append_right (Nat.le_refl _), Nat.sub_self]
    show (String.utf8EncodeChar first ++ bytes rest)[0]? = some byte
    rw [isFirst]
    rfl
  show outcome (do
    let byte ← inRange (bytes (before ++ first :: rest))[size before]?
    moveOn 1
    return byte : Scanner UInt8) _ = _
  rw [isThere]
  rfl

theorem plain_isSign : Plain isSign where
  ascii char sign := by
    simp only [isSign, Bool.or_eq_true, decide_eq_true_eq] at sign
    rcases sign with (isLone | listed) | blank
    · unfold loneMark? at isLone
      split at isLone <;> first | decide | cases isLone
    · simp only [List.mem_cons, List.not_mem_nil, or_false] at listed
      rcases listed with rfl | rfl | rfl | rfl | rfl | rfl <;> decide
    · rcases isBlank_cases blank with rfl | rfl | rfl | rfl <;> decide
  zero := rfl

theorem plain_startsName : Plain startsName where
  ascii char starts := plain_continuesName.ascii char (continuesName_of_startsName starts)
  zero := rfl

/-- A piece is taken as what it is. -/
theorem scanPiece_outcome (before : List Char) (first : Char) (rest : List Char) (line : Nat) :
    outcome (scanPiece (before ++ first :: rest)) ⟨size before, size before, line, false⟩ =
      taken before line (Piece.first first rest) := by
  obtain ⟨byte, others, isFirst⟩ := exists_utf8EncodeChar first
  refine (outcome_bind_ok (advance_outcome isFirst)).trans ?_
  by_cases ascii : Ascii first
  · have isSize : size before + 1 = size (before ++ [first]) := by
      rw [size_append, size_cons, ascii.utf8Size]
      rfl
    rw [ascii.bytes] at isFirst
    cases isFirst
    rw [ascii.charOf_toUInt8, isSize, List.append_cons]
    exact takePiece_outcome
  · -- with the first of several bytes no token begins, and the whole character is stray
    have member : byte ∈ String.utf8EncodeChar first := isFirst ▸ List.mem_cons_self
    have isStray : Piece.first first rest = .stray first := by
      rw [first_of_notSign (plain_isSign.eq_false ascii), plain_isDigit.eq_false ascii,
        plain_startsName.eq_false ascii]
      rfl
    have notEnd : first ≠ '\n' := fun isEnd => ascii (isEnd ▸ by decide)
    rw [takePiece_of_notSign (plain_isSign.other ascii member), plain_isDigit.other ascii member,
      plain_startsName.other ascii member, isStray, taken_stray before line notEnd]
    exact stray_outcome _

/-! ### Items -/

/-- Behind a blank or a comment the search for a token goes on, behind any other piece it ends. -/
theorem scanToken_outcome (before : List Char) (first : Char) (rest : List Char)
    (start line : Nat) {piece : Piece} (isFirst : Piece.first first rest = piece) :
    outcome (scanToken (before ++ first :: rest)) ⟨start, size before, line, false⟩ =
      match found line piece with
      | .ok (some kind) => some (.ok ⟨kind, String.ofList piece.text, line + newlines piece.text⟩,
          within before piece.text (line + newlines piece.text))
      | .ok none => outcome (scanToken (before ++ first :: rest))
          (within before piece.text (line + newlines piece.text))
      | .error stop =>
        some (.error stop, within before piece.text (line + newlines piece.text)) := by
  have scanned := scanPiece_outcome before first rest line
  rw [isFirst] at scanned
  obtain ⟨inside, after, isText, isRest⟩ := (first_takes first rest).text
  rw [isFirst] at isText
  have isSource : before ++ first :: rest = before ++ piece.text ++ after := by
    rw [isText, isRest, List.append_assoc]
    rfl
  conv_lhs => rw [scanToken]
  refine (outcome_bind_ok (atEnd_outcome rfl)).trans (outcome_modify_bind.trans ?_)
  cases piece with
  | token kind text =>
    have lexeme : outcome (lexeme (before ++ first :: rest))
        (within before text (line + newlines text)) =
          some (.ok text, within before text (line + newlines text)) := by
      rw [isSource]
      exact lexeme_outcome
    exact (outcome_bind_ok scanned).trans ((outcome_bind_ok lexeme).trans rfl)
  | blank char => exact outcome_bind_ok scanned
  | comment text => exact outcome_bind_ok scanned
  | stray char => exact outcome_bind_error scanned
  | openString text => exact outcome_bind_error scanned
  | openComment text => exact outcome_bind_error scanned

section

variable {source : List Char} {start place : Nat} {after : Cursor}

/-- A token that is found is the next item, and so is an error. -/
theorem next_token {token : Token} (scanned : outcome (scanToken source)
      ⟨start, place, line, false⟩ = some (.ok token, after)) :
    outcome (next source) ⟨start, place, line, false⟩ = some (.ok (some (.ok token)), after) :=
  outcome_get_bind.trans (outcome_tryCatch_ok (outcome_bind_ok scanned))

theorem next_error {error : LexicalError} (scanned : outcome (scanToken source)
      ⟨start, place, line, false⟩ = some (.error (.error error), after)) :
    outcome (next source) ⟨start, place, line, false⟩ = some (.ok (some (.error error)), after) :=
  outcome_get_bind.trans (outcome_tryCatch_error (outcome_bind_error scanned))

end

/-- Behind a piece of which nothing is reported the next item is the same; any other is the next
item. -/
theorem next_outcome (before : List Char) (first : Char) (rest : List Char) (start line : Nat)
    {piece : Piece} (isFirst : Piece.first first rest = piece) :
    outcome (next (before ++ first :: rest)) ⟨start, size before, line, false⟩ =
      match piece.item? line with
      | some item => some (.ok (some item),
          within before piece.text (line + newlines piece.text))
      | none => outcome (next (before ++ first :: rest))
          (within before piece.text (line + newlines piece.text)) := by
  have scanned := scanToken_outcome before first rest start line isFirst
  have goesOn (same : outcome (scanToken (before ++ first :: rest))
        ⟨start, size before, line, false⟩ = outcome (scanToken (before ++ first :: rest))
          (within before piece.text (line + newlines piece.text))) :
      outcome (next (before ++ first :: rest)) ⟨start, size before, line, false⟩ =
        outcome (next (before ++ first :: rest))
          (within before piece.text (line + newlines piece.text)) :=
    outcome_get_bind.trans (outcome_tryCatch_congr (outcome_bind_congr same _) _)
  cases piece with
  | token kind text => exact next_token scanned
  | blank char => exact goesOn scanned
  | comment text => exact goesOn scanned
  | stray char => exact next_error scanned
  | openString text => exact next_error scanned
  | openComment text => exact next_error scanned

/-- At the end of the source its end is given, once. -/
theorem next_end (before : List Char) (start line : Nat) :
    outcome (next (before ++ [])) ⟨start, size before, line, false⟩ =
      some (.ok (some (.ok ⟨.endOfInput, "", line⟩)), ⟨start, size before, line, true⟩) := by
  have scanned : outcome (scanToken (before ++ [])) ⟨start, size before, line, false⟩ =
      some (.ok ⟨.endOfInput, "", line⟩, ⟨start, size before, line, true⟩) := by
    rw [scanToken]
    exact outcome_bind_ok (atEnd_outcome rfl)
  exact next_token scanned

theorem next_ended (source : List Char) (start place line : Nat) :
    outcome (next source) ⟨start, place, line, true⟩ =
      some (.ok none, ⟨start, place, line, true⟩) :=
  rfl

theorem allItems_ended (source : List Char) (start place line : Nat) :
    outcome (allItems source) ⟨start, place, line, true⟩ =
      some (.ok [], ⟨start, place, line, true⟩) := by
  rw [allItems]
  exact outcome_bind_ok (next_ended source start place line)

/-- Once it is known what is next, the items are that and what is given behind it. -/
theorem allItems_some {source : List Char} {cursor after last : Cursor} {item : Item}
    {items : List Item} (isNext : outcome (next source) cursor = some (.ok (some item), after))
    (others : outcome (allItems source) after = some (.ok items, last)) :
    outcome (allItems source) cursor = some (.ok (item :: items), last) := by
  rw [allItems]
  exact (outcome_bind_ok isNext).trans (outcome_bind_ok others)

/-- All items are what is read off the pieces of the text that is left. -/
theorem allItems_outcome (before text : List Char) (start line : Nat) :
    ∃ last, outcome (allItems (before ++ text)) ⟨start, size before, line, false⟩ =
      some (.ok (readPieces line (split text)),
        ⟨last, size (before ++ text), line + newlines text, true⟩) := by
  generalize isSplit : split text = pieces
  -- where the last lexeme began is carried along and does not matter
  induction pieces generalizing before text start line with
  | nil =>
    cases text with
    | nil =>
      refine ⟨start, ?_⟩
      refine (allItems_some (next_end before start line) (allItems_ended _ _ _ _)).trans ?_
      rw [List.append_nil]
      rfl
    | cons first rest => cases isSplit
  | cons piece others inductionHypothesis =>
    obtain ⟨first, rest, after, isText, isFirst, isCut, isOthers⟩ := split_eq_cons isSplit
    have isSource : before ++ text = before ++ piece.text ++ after := by
      rw [isCut, List.append_assoc]
    have lines : line + newlines text = line + newlines piece.text + newlines after := by
      rw [isCut, newlines_append_chars, Nat.add_assoc]
    have isNext := next_outcome before first rest start line isFirst
    rw [← isText] at isNext
    obtain ⟨last, behind⟩ := inductionHypothesis (before ++ piece.text) after (size before)
      (line + newlines piece.text) isOthers
    rw [← isSource] at behind
    refine ⟨last, ?_⟩
    rw [lines, readPieces]
    cases isItem : piece.item? line with
    | some item =>
      rw [isItem] at isNext
      exact allItems_some isNext behind
    | none =>
      -- nothing is given for the piece, so what is next is what is next behind it
      rw [isItem] at isNext
      rw [allItems] at behind ⊢
      exact (outcome_bind_congr isNext _).trans behind

end Lox.Source.Bytewise
