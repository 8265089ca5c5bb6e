/-
Scanning undoes writing. Words written one after another, each but the last with a separator behind
it that begins with a blank, are read back as they are: a blank ends every word, so the longest
match is the word itself, and a separator is cut up into pieces of which nothing is reported.
-/

import Lox.Proofs.Source.Lexeme

namespace Lox

/-- What a token is and how it is spelled. -/
def Token.spelled (token : Token) : TokenKind × String := (token.kind, token.lexeme)

namespace Source

/-! ### What is written -/

/-- A token as it is written. -/
structure Word where
  kind : TokenKind
  text : List Char
  lexeme : Lexeme kind text

/-- What a written word is and how it is spelled. -/
def Word.spelled (word : Word) : TokenKind × String := (word.kind, String.ofList word.text)

/-- A part of a separator: a blank, a comment with the end of its line, or a comment between its two
signs. -/
inductive Filler where
  | blank (char : Char) (blank : isBlank char = true)
  | lineComment (inside : List Char) (within : '\n' ∉ inside)
  | blockComment (inside : List Char) (unclosed : ¬closingSign <:+: inside)

/-- The characters of a part of a separator. -/
def Filler.text : Filler → List Char
  | .blank char _ => [char]
  | .lineComment inside _ => '/' :: '/' :: (inside ++ ['\n'])
  | .blockComment inside _ => '/' :: '*' :: (inside ++ closingSign)

/-- A blank and what else separates two words. -/
structure Separator where
  first : Char
  blank : isBlank first = true
  others : List Filler

/-- The characters of a separator. -/
def Separator.text (separator : Separator) : List Char :=
  separator.first :: separator.others.flatMap Filler.text

/-- A single space. -/
def Separator.space : Separator := ⟨' ', rfl, []⟩

/-- Words with a separator behind each, and maybe a last word with nothing behind it. -/
def written : List (Word × Separator) → Option Word → List Char
  | [], none => []
  | [], some word => word.text
  | (word, separator) :: others, last => word.text ++ (separator.text ++ written others last)

/-- The words as tokens are spelled, and the end behind them. -/
def spelledWords (words : List Word) : List (TokenKind × String) :=
  words.map Word.spelled ++ [(.endOfInput, "")]

/-- The source is scanned without an error, as tokens that are spelled so. -/
def Spells (source : String) (spellings : List (TokenKind × String)) : Prop :=
  (scan source).2 = [] ∧ (scan source).1.map Token.spelled = spellings

/-! ### Pieces side by side -/

theorem splitAfter_eq (covered : Nat) (text : List Char) :
    splitAfter covered text = split (text.drop covered) := by
  induction text generalizing covered with
  | nil => cases covered <;> rfl
  | cons first rest inductionHypothesis =>
    cases covered with
    | succ covered => exact inductionHypothesis covered
    | zero => rfl

/-- Behind the first piece the text is split as it is by itself. -/
theorem split_append {piece : Piece} {first : Char} {inside after : List Char}
    (isFirst : Piece.first first (inside ++ after) = piece)
    (isText : piece.text = first :: inside) :
    split (first :: inside ++ after) = piece :: split after := by
  show Piece.first first (inside ++ after) ::
    splitAfter ((Piece.first first (inside ++ after)).text.length - 1) (inside ++ after) = _
  rw [isFirst, isText, splitAfter_eq, List.length_cons, Nat.add_sub_cancel, List.drop_left]

/-- A text is its first piece and what is split behind that. -/
theorem split_eq_cons {text : List Char} {piece : Piece} {others : List Piece}
    (isSplit : split text = piece :: others) :
    ∃ first rest after, text = first :: rest ∧ Piece.first first rest = piece ∧
      text = piece.text ++ after ∧ split after = others := by
  cases text with
  | nil => cases isSplit
  | cons first rest =>
    obtain ⟨isFirst, isOthers⟩ := List.cons.inj isSplit
    obtain ⟨inside, after, isText, isRest⟩ := (first_takes first rest).text
    rw [splitAfter_eq, isText, isRest, List.length_cons, Nat.add_sub_cancel, List.drop_left]
      at isOthers
    rw [isFirst] at isText
    exact ⟨first, rest, after, rfl, isFirst, by rw [isText, isRest]; rfl, isOthers⟩

/-! ### Words -/

/-- The text is empty or begins with a blank. -/
def Ended (text : List Char) : Prop :=
  ∀ following ∈ text.head?, isBlank following = true

theorem Ended.notBegins {char : Char} (notBlank : isBlank char = false) {rest : List Char} :
    ¬Ended (char :: rest) := fun ended =>
  Bool.false_ne_true (notBlank.symm.trans (ended char rfl))

/-- A run of characters of which none is blank ends where the text does. -/
theorem Ended.takeWhile {continues : Char → Bool} {text after : List Char} (ended : Ended after)
    (apart : ∀ char, isBlank char = true → continues char = false)
    (all : ∀ char ∈ text, continues char = true) :
    (text ++ after).takeWhile continues = text ∧ (text ++ after).dropWhile continues = after := by
  rw [List.takeWhile_append_of_pos all, List.dropWhile_append_of_pos all]
  cases after with
  | nil => exact ⟨List.append_nil text, rfl⟩
  | cons following rest =>
    have stops := apart following (ended following rfl)
    simp [stops]

theorem isBlank_cases {char : Char} (blank : isBlank char = true) :
    char = ' ' ∨ char = '\t' ∨ char = '\r' ∨ char = '\n' := by
  simpa only [isBlank, Bool.or_eq_true, beq_iff_eq, or_assoc] using blank

theorem continuesName_of_isBlank (char : Char) (blank : isBlank char = true) :
    continuesName char = false := by
  rcases isBlank_cases blank with rfl | rfl | rfl | rfl <;> rfl

theorem isDigit_of_isBlank (char : Char) (blank : isBlank char = true) : char.isDigit = false := by
  rcases isBlank_cases blank with rfl | rfl | rfl | rfl <;> rfl

theorem Ended.nil : Ended [] :=
  fun _ isFirst => nomatch isFirst

theorem withEqual_ended {after : List Char} (ended : Ended after) (single double : Mark) :
    withEqual single double after = .ofMark single := by
  unfold withEqual
  split
  · exact absurd ended (Ended.notBegins rfl)
  · rfl

theorem slashPiece_ended {after : List Char} (ended : Ended after) :
    slashPiece after = .ofMark .slash := by
  unfold slashPiece
  split
  · exact absurd ended (Ended.notBegins rfl)
  · exact absurd ended (Ended.notBegins rfl)
  · rfl

/-- The characters for which `Piece.first` asks before names and numbers. -/
def isSign (char : Char) : Bool :=
  (loneMark? char).isSome || char ∈ ['!', '=', '<', '>', '/', '"'] || isBlank char

theorem first_of_notSign {first : Char} (notSign : isSign first = false) (rest : List Char) :
    Piece.first first rest =
      if first.isDigit then numberPiece (first :: rest)
      else if startsName first then wordPiece first rest
      else .stray first := by
  simp only [isSign, Bool.or_eq_false_iff, Option.isSome_eq_false_iff, Option.isNone_iff_eq_none,
    decide_eq_false_iff_not, List.mem_cons, List.not_mem_nil, or_false, not_or] at notSign
  obtain ⟨⟨notLone, notBang, notEqual, notLess, notGreater, notSlash, notQuote⟩, notBlank⟩ :=
    notSign
  simp only [Piece.first, notLone, notBang, notEqual, notLess, notGreater, notSlash, notQuote,
    notBlank, if_false, Bool.false_eq_true]

/-- A sign is none of the characters of names and numbers. -/
theorem continuesName_of_isSign {char : Char} (sign : isSign char = true) :
    continuesName char = false := by
  simp only [isSign, Bool.or_eq_true, decide_eq_true_eq] at sign
  rcases sign with (isLone | listed) | blank
  · unfold loneMark? at isLone
    split at isLone <;> first | rfl | exact absurd isLone (by decide)
  · simp only [List.mem_cons, List.not_mem_nil, or_false] at listed
    rcases listed with rfl | rfl | rfl | rfl | rfl | rfl <;> rfl
  · exact continuesName_of_isBlank char blank

theorem continuesName_of_startsName {char : Char} (starts : startsName char = true) :
    continuesName char = true := by
  simp only [startsName, continuesName, Char.isAlphanum, Bool.or_eq_true] at starts ⊢
  tauto

theorem isDigit_of_startsName {char : Char} (starts : startsName char = true) :
    char.isDigit = false := by
  rcases Bool.or_eq_true _ _ ▸ starts with isAlpha | isUnderscore
  · refine Bool.eq_false_iff.mpr fun isDigit => ?_
    have isLetter : (decide ('A'.val ≤ char.val ∧ char.val ≤ 'Z'.val) ||
        (decide ('a'.val ≤ char.val) && decide (char.val ≤ 'z'.val))) = true := isAlpha
    have isFigure : (decide ('0'.val ≤ char.val) && decide (char.val ≤ '9'.val)) = true := isDigit
    simp only [Bool.or_eq_true, Bool.and_eq_true, decide_eq_true_eq, UInt32.le_iff_toNat_le]
      at isLetter isFigure
    have digits : '9'.val.toNat < 'A'.val.toNat ∧ 'A'.val.toNat < 'a'.val.toNat := by decide
    omega
  · rw [eq_of_beq isUnderscore]
    rfl

theorem notSign_of_continuesName {char : Char} (continues : continuesName char = true) :
    isSign char = false :=
  Bool.eq_false_iff.mpr fun sign =>
    Bool.false_ne_true ((continuesName_of_isSign sign).symm.trans continues)

theorem first_of_startsName {first : Char} (starts : startsName first = true) (rest : List Char) :
    Piece.first first rest = wordPiece first rest := by
  rw [first_of_notSign (notSign_of_continuesName (continuesName_of_startsName starts)),
    isDigit_of_startsName starts, starts]
  rfl

theorem first_of_isDigit {first : Char} (isDigit : first.isDigit = true) (rest : List Char) :
    Piece.first first rest = numberPiece (first :: rest) := by
  have continues : continuesName first = true := by
    simp only [continuesName, Char.isAlphanum, isDigit, Bool.or_true, Bool.true_or]
  rw [first_of_notSign (notSign_of_continuesName continues), if_pos isDigit]

theorem wordPiece_ended {first : Char} {inside after : List Char} (ended : Ended after)
    (continues : ∀ char ∈ inside, continuesName char = true) :
    wordPiece first (inside ++ after) =
      match Mark.reserved? (String.ofList (first :: inside)) with
      | some mark => .token (.mark mark) (first :: inside)
      | none => .token .identifier (first :: inside) := by
  have taken := (ended.takeWhile continuesName_of_isBlank continues).1
  unfold wordPiece
  cases found : Mark.reserved? (String.ofList (first :: inside)) <;>
    simp only [taken, found]

theorem stringPiece_closed {contents : List Char} (within : '"' ∉ contents) (after : List Char) :
    stringPiece (contents ++ '"' :: after) =
      .token (.string (String.ofList contents)) ('"' :: contents ++ ['"']) := by
  have all : ∀ char ∈ contents, (char != '"') = true := fun char member =>
    bne_iff_ne.mpr fun isQuote => within (isQuote ▸ member)
  have isContents : (contents ++ '"' :: after).takeWhile (· != '"') = contents := by
    rw [List.takeWhile_append_of_pos all]
    exact List.append_nil contents
  have isRest : (contents ++ '"' :: after).dropWhile (· != '"') = '"' :: after := by
    rw [List.dropWhile_append_of_pos all]
    rfl
  simp only [stringPiece, isContents, isRest]

theorem numberDigits_ended {digits decimals after : List Char} (ended : Ended after)
    (areDigits : ∀ char ∈ digits, char.isDigit = true)
    (areDecimals : ∀ char ∈ decimals, char.isDigit = true) :
    numberDigits (numberText (digits, decimals) ++ after) = (digits, decimals) := by
  cases decimals with
  | nil =>
    obtain ⟨isDigits, isAfter⟩ := ended.takeWhile isDigit_of_isBlank areDigits
    show numberDigits (digits ++ after) = _
    rw [numberDigits, isDigits, isAfter]
    split
    · exact absurd ended (Ended.notBegins rfl)
    · rfl
  | cons decimal decimals =>
    obtain ⟨isDecimals, _⟩ := ended.takeWhile isDigit_of_isBlank areDecimals
    have isText : numberText (digits, decimal :: decimals) ++ after =
        digits ++ '.' :: (decimal :: decimals ++ after) := List.append_assoc _ _ _
    have isDigits : (digits ++ '.' :: (decimal :: decimals ++ after)).takeWhile Char.isDigit =
        digits := by
      rw [List.takeWhile_append_of_pos areDigits]
      exact List.append_nil digits
    have isRest : (digits ++ '.' :: (decimal :: decimals ++ after)).dropWhile Char.isDigit =
        '.' :: (decimal :: decimals ++ after) := by
      rw [List.dropWhile_append_of_pos areDigits]
      rfl
    rw [isText, numberDigits, isDigits, isRest]
    exact congrArg (Prod.mk digits) isDecimals

/-- A mark is found where nothing or a blank is behind it. -/
theorem first_of_mark {mark : Mark} {first : Char} {inside after : List Char}
    (spelling : mark.spelling.toList = first :: inside) (ended : Ended after) :
    Piece.first first (inside ++ after) = .ofMark mark := by
  cases mark <;> cases spelling <;> first
    | rfl
    | exact withEqual_ended ended _ _
    | exact slashPiece_ended ended
    | exact (first_of_startsName rfl _).trans (wordPiece_ended ended (List.all_eq_true.mp rfl))

/-- A word is found as what it is where nothing or a blank is behind it. -/
theorem first_of_lexeme {kind : TokenKind} {text after : List Char} (lexeme : Lexeme kind text)
    (ended : Ended after) :
    ∃ first inside, text = first :: inside ∧
      Piece.first first (inside ++ after) = .token kind text := by
  cases lexeme with
  | mark mark =>
    cases spelling : mark.spelling.toList with
    | nil => cases mark <;> cases spelling
    | cons first inside =>
      refine ⟨first, inside, rfl, (first_of_mark spelling ended).trans ?_⟩
      rw [Piece.ofMark, spelling]
  | @name first inside starts continues unreserved =>
    refine ⟨first, inside, rfl, ?_⟩
    rw [first_of_startsName starts, wordPiece_ended ended continues, unreserved]
  | @string contents within =>
    refine ⟨'"', contents ++ ['"'], rfl, ?_⟩
    rw [List.append_assoc]
    exact stringPiece_closed within after
  | @number digits decimals nonempty areDigits areDecimals =>
    have isDigits := numberDigits_ended ended areDigits areDecimals
    cases isText : numberText (digits, decimals) with
    | nil =>
      cases decimals with
      | nil => exact absurd isText nonempty
      | cons decimal decimals => exact absurd isText (List.append_ne_nil_of_right_ne_nil _ nofun)
    | cons first inside =>
      have isDigit : first.isDigit = true := by
        cases digits with
        | nil => exact absurd rfl nonempty
        | cons digit digits =>
          have isFirst : digit = first := by cases decimals <;> exact (List.cons.inj isText).1
          exact isFirst ▸ areDigits digit List.mem_cons_self
      rw [isText] at isDigits
      refine ⟨first, inside, rfl, ?_⟩
      rw [first_of_isDigit isDigit, numberPiece, ← List.cons_append, isDigits, isText]

/-- Where nothing or a blank is behind it, a word is a piece by itself. -/
theorem split_word (word : Word) {after : List Char} (ended : Ended after) :
    split (word.text ++ after) = .token word.kind word.text :: split after := by
  obtain ⟨first, inside, isText, isFirst⟩ := first_of_lexeme word.lexeme ended
  rw [isText] at isFirst ⊢
  exact split_append isFirst rfl

/-! ### Separators -/

/-- Nothing is reported of the piece. -/
def Piece.Silent (piece : Piece) : Prop :=
  ∀ line, piece.item? line = none

theorem first_of_isBlank {char : Char} (blank : isBlank char = true) (after : List Char) :
    Piece.first char after = .blank char := by
  rcases isBlank_cases blank with rfl | rfl | rfl | rfl <;> rfl

theorem split_blank {char : Char} (blank : isBlank char = true) (after : List Char) :
    split ([char] ++ after) = .blank char :: split after :=
  split_append (first_of_isBlank blank after) rfl

theorem split_lineComment {inside : List Char} (within : '\n' ∉ inside) (after : List Char) :
    split ('/' :: '/' :: (inside ++ '\n' :: after)) =
      .comment ('/' :: '/' :: inside) :: .blank '\n' :: split after := by
  have all : ∀ char ∈ inside, (char != '\n') = true := fun char member =>
    bne_iff_ne.mpr fun isEnd => within (isEnd ▸ member)
  have isInside : (inside ++ '\n' :: after).takeWhile (· != '\n') = inside := by
    rw [List.takeWhile_append_of_pos all]
    exact List.append_nil inside
  have isFirst : Piece.first '/' ('/' :: inside ++ '\n' :: after) =
      .comment ('/' :: '/' :: inside) := by
    show Piece.comment ('/' :: '/' :: (inside ++ '\n' :: after).takeWhile (· != '\n')) = _
    rw [isInside]
  rw [← split_blank rfl]
  exact split_append isFirst rfl

/-- A block comment ends at a closing sign if there is none before it. -/
theorem commentLength_closed {inside : List Char} (unclosed : ¬closingSign <:+: inside)
    (passed : Nat) (after : List Char) :
    commentLength passed (inside ++ closingSign ++ after) =
      some (passed + (inside ++ closingSign).length) := by
  induction inside generalizing passed with
  | nil => rfl
  | cons first rest inductionHypothesis =>
    rw [List.cons_append, List.cons_append, commentLength]
    · rw [inductionHypothesis fun isInfix => unclosed (List.infix_cons isInfix)]
      simp only [List.length_cons, Option.some.injEq]
      omega
    · intro others isStar isSlash
      cases rest with
      | nil => exact absurd (List.cons.inj isSlash).1 (by decide)
      | cons second rest =>
        obtain rfl := isStar
        obtain ⟨rfl, _⟩ := List.cons.inj isSlash
        exact unclosed ⟨[], rest, rfl⟩

theorem split_blockComment {inside : List Char} (unclosed : ¬closingSign <:+: inside)
    (after : List Char) :
    split ('/' :: '*' :: (inside ++ closingSign) ++ after) =
      .comment ('/' :: '*' :: (inside ++ closingSign)) :: split after := by
  refine split_append ?_ rfl
  show slashPiece ('*' :: (inside ++ closingSign ++ after)) = _
  rw [slashPiece, commentLength_closed unclosed, Nat.zero_add]
  exact congrArg (fun text => Piece.comment ('/' :: '*' :: text)) List.take_left

/-- A part of a separator is cut up into pieces of which nothing is reported. -/
theorem split_filler (filler : Filler) (after : List Char) :
    ∃ silent, split (filler.text ++ after) = silent ++ split after ∧
      ∀ piece ∈ silent, piece.Silent := by
  cases filler with
  | blank char blank =>
    exact ⟨[_], split_blank blank after, List.forall_mem_singleton.mpr fun _ => rfl⟩
  | lineComment inside within =>
    refine ⟨[.comment ('/' :: '/' :: inside), .blank '\n'], ?_, fun piece member line => ?_⟩
    · rw [Filler.text, List.cons_append, List.cons_append, List.append_assoc]
      exact split_lineComment within after
    · rcases List.mem_pair.mp member with rfl | rfl <;> rfl
  | blockComment inside unclosed =>
    exact ⟨[_], split_blockComment unclosed after, List.forall_mem_singleton.mpr fun _ => rfl⟩

theorem split_separator (separator : Separator) (after : List Char) :
    ∃ silent, split (separator.text ++ after) = silent ++ split after ∧
      ∀ piece ∈ silent, piece.Silent := by
  have others (fillers : List Filler) :
      ∃ silent, split (fillers.flatMap Filler.text ++ after) = silent ++ split after ∧
        ∀ piece ∈ silent, piece.Silent := by
    induction fillers with
    | nil => exact ⟨[], rfl, nofun⟩
    | cons filler fillers inductionHypothesis =>
      obtain ⟨behind, isBehind, behindSilent⟩ := inductionHypothesis
      obtain ⟨here, isHere, hereSilent⟩ :=
        split_filler filler (fillers.flatMap Filler.text ++ after)
      refine ⟨here ++ behind, ?_, List.forall_mem_append.mpr ⟨hereSilent, behindSilent⟩⟩
      rw [List.flatMap_cons, List.append_assoc, isHere, isBehind, List.append_assoc]
  obtain ⟨silent, isSplit, areSilent⟩ := others separator.others
  refine ⟨.blank separator.first :: silent, ?_, List.forall_mem_cons.mpr ⟨fun _ => rfl, areSilent⟩⟩
  show split ([separator.first] ++ (separator.others.flatMap Filler.text ++ after)) = _
  rw [split_blank separator.blank, isSplit]
  rfl

/-! ### Reading words -/

/-- From whatever line on, the pieces are read as the words and the end, and as no error. -/
def ReadAs (pieces : List Piece) (words : List Word) : Prop :=
  ∀ line, errorsOf (readPieces line pieces) = [] ∧
    (tokensOf (readPieces line pieces)).map Token.spelled = spelledWords words

theorem ReadAs.nil : ReadAs [] [] := fun _ => ⟨rfl, rfl⟩

theorem ReadAs.silent {silent pieces : List Piece} {words : List Word}
    (areSilent : ∀ piece ∈ silent, piece.Silent) (read : ReadAs pieces words) :
    ReadAs (silent ++ pieces) words := by
  induction silent with
  | nil => exact read
  | cons piece others inductionHypothesis =>
    obtain ⟨isSilent, areSilent⟩ := List.forall_mem_cons.mp areSilent
    intro line
    rw [List.cons_append, readPieces, isSilent line]
    exact inductionHypothesis areSilent _

theorem ReadAs.word (word : Word) {pieces : List Piece} {words : List Word}
    (read : ReadAs pieces words) :
    ReadAs (.token word.kind word.text :: pieces) (word :: words) := fun line =>
  have others := read (line + newlines word.text)
  ⟨others.1, congrArg (word.spelled :: ·) others.2⟩

/-- Written words are read back. -/
theorem written_readAs (separated : List (Word × Separator)) (last : Option Word) :
    ReadAs (split (written separated last)) (separated.map Prod.fst ++ last.toList) := by
  induction separated with
  | nil =>
    cases last with
    | none => exact .nil
    | some word =>
      rw [written, ← List.append_nil word.text, split_word word .nil]
      exact ReadAs.nil.word word
  | cons both others inductionHypothesis =>
    obtain ⟨word, separator⟩ := both
    have ended : Ended (separator.text ++ written others last) := fun following isFirst => by
      cases isFirst
      exact separator.blank
    obtain ⟨silent, isSplit, areSilent⟩ := split_separator separator (written others last)
    rw [written, split_word word ended, isSplit]
    exact (inductionHypothesis.silent areSilent).word word

theorem written_spells (separated : List (Word × Separator)) (last : Option Word) :
    Spells (String.ofList (written separated last))
      (spelledWords (separated.map Prod.fst ++ last.toList)) := by
  have read := written_readAs separated last 1
  rw [← String.toList_ofList (l := written separated last)] at read
  exact read

/-! ### Writing what was scanned -/

/-- The tokens of a source are words, and the end. -/
theorem scan_words (source : String) :
    ∃ words, (scan source).1.map Token.spelled = spelledWords words := by
  have words (pieces : List Piece) (stand : ∀ piece ∈ pieces, ∃ after, piece.Stands after) :
      ∃ words, ∀ line,
        (tokensOf (readPieces line pieces)).map Token.spelled = spelledWords words := by
    induction pieces with
    | nil => exact ⟨[], fun _ => rfl⟩
    | cons piece others inductionHypothesis =>
      obtain ⟨⟨after, stands⟩, stand⟩ := List.forall_mem_cons.mp stand
      obtain ⟨words, read⟩ := inductionHypothesis stand
      cases piece with
      | token kind text =>
        exact ⟨⟨kind, text, stands⟩ :: words, fun _ => congrArg (_ :: ·) (read _)⟩
      | _ => exact ⟨words, fun _ => read _⟩
  obtain ⟨words, read⟩ := words (split source.toList) fun piece member => by
    obtain ⟨before, behind, isSplit⟩ := List.append_of_mem member
    exact ⟨_, (splitAfter_stands 0 source.toList before piece behind isSplit).2⟩
  exact ⟨words, read 1⟩

/-- Words with a single space between any two are written words, also with an empty spelling behind
the last one. -/
theorem exists_spaced (words : List Word) (closing : List String)
    (isEmpty : closing = [] ∨ closing = [""]) : ∃ separated last,
      separated.map Prod.fst ++ last.toList = words ∧
        " ".intercalate (words.map (Prod.snd ∘ Word.spelled) ++ closing) =
          String.ofList (written separated last) := by
  induction words with
  | nil => exact ⟨[], none, rfl, by rcases isEmpty with rfl | rfl <;> rfl⟩
  | cons word others inductionHypothesis =>
    obtain ⟨separated, last, rfl, isWritten⟩ := inductionHypothesis
    rw [List.map_cons, List.cons_append]
    cases behind : List.map (Prod.snd ∘ Word.spelled) (separated.map Prod.fst ++ last.toList) ++
        closing with
    | nil =>
      obtain ⟨noWords, _⟩ := List.append_eq_nil_iff.mp behind
      rw [List.map_eq_nil_iff.mp noWords]
      exact ⟨[], some word, rfl, String.intercalate_singleton⟩
    | cons second more =>
      refine ⟨(word, .space) :: separated, last, rfl, ?_⟩
      rw [String.intercalate_cons_cons, ← behind, isWritten, written, String.ofList_append,
        String.ofList_append, String.append_assoc]
      rfl

/-- The spellings of words, maybe with the empty spelling of the end behind them, are scanned as the
words again if there is a space between any two. -/
theorem spaced_spells (words : List Word) (closing : List String)
    (isEmpty : closing = [] ∨ closing = [""]) :
    Spells (" ".intercalate (words.map (Prod.snd ∘ Word.spelled) ++ closing))
      (spelledWords words) := by
  obtain ⟨separated, last, rfl, isWritten⟩ := exists_spaced words closing isEmpty
  rw [isWritten]
  exact written_spells separated last

/-- Scanning undoes writing: words written with separators between them are scanned without an error
as those words. Hence the spellings of all the tokens of a source, written one after another with a
space between any two, are scanned as those tokens again, whether the empty spelling of the end is
written too or not. -/
theorem scan_written :
    (∀ separated last, Spells (String.ofList (written separated last))
      (spelledWords (separated.map Prod.fst ++ last.toList))) ∧
    ∀ source, let tokens := (scan source).1
      Spells (" ".intercalate (tokens.map Token.lexeme)) (tokens.map Token.spelled) ∧
      Spells (" ".intercalate (tokens.dropLast.map Token.lexeme)) (tokens.map Token.spelled) := by
  refine ⟨written_spells, fun source => ?_⟩
  obtain ⟨words, isWords⟩ := scan_words source
  have lexemes (tokens : List Token) :
      tokens.map Token.lexeme = (tokens.map Token.spelled).map Prod.snd := by
    rw [List.map_map]
    rfl
  have all : (spelledWords words).map Prod.snd = words.map (Prod.snd ∘ Word.spelled) ++ [""] := by
    rw [spelledWords, List.map_append, List.map_map]
    rfl
  have butLast : (spelledWords words).dropLast.map Prod.snd =
      words.map (Prod.snd ∘ Word.spelled) ++ [] := by
    rw [spelledWords, List.dropLast_concat, List.map_map, List.append_nil]
  dsimp only
  rw [lexemes, lexemes, List.map_dropLast, isWords, all, butLast]
  exact ⟨spaced_spells words [""] (.inr rfl), spaced_spells words [] (.inl rfl)⟩

end Source

end Lox
