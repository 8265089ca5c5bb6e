/-
What the pieces of a source are, said apart from how they are found: how the tokens of each kind are
written, what a comment is and where it ends, and with which characters no token begins. Every piece
that is found stands before the rest of the source as these say.
-/

import Lox.Proofs.Source.Seam
import Lox.Proofs.Source.Spelling
import Mathlib.Data.List.TakeWhile

namespace Lox.Source

/-! ### Tokens -/

/-- How the tokens of a kind are written: marks by their spelling, a name in ASCII and as no
reserved word, a string between quotes, and a number with digits on both sides of its point if it
has one. -/
inductive Lexeme : TokenKind → List Char → Prop
  | mark (mark : Mark) : Lexeme (.mark mark) mark.spelling.toList
  | name {first rest} : startsName first = true → (∀ char ∈ rest, continuesName char = true) →
    Mark.reserved? (String.ofList (first :: rest)) = none → Lexeme .identifier (first :: rest)
  | string {contents} : '"' ∉ contents →
    Lexeme (.string (String.ofList contents)) ('"' :: contents ++ ['"'])
  | number {digits decimals} : digits ≠ [] → (∀ char ∈ digits, char.isDigit = true) →
    (∀ char ∈ decimals, char.isDigit = true) →
    Lexeme (.number (numberValue (digits, decimals))) (numberText (digits, decimals))

/-- With the character, whatever follows it, no token begins. -/
def StartsNothing (char : Char) : Prop :=
  ∀ kind rest, ¬Lexeme kind (char :: rest)

theorem Lexeme.notEnd {kind : TokenKind} {text : List Char} (lexeme : Lexeme kind text) :
    kind ≠ .endOfInput := by
  cases lexeme <;> exact nofun

/-! ### Comments -/

/-- The sign that closes a block comment. -/
def closingSign : List Char := ['*', '/']

/-- The text is a whole comment before the text `after`: one up to the end of its line, or one up to
the first closing sign. -/
inductive IsComment : (text after : List Char) → Prop
  | line {inside after} : '\n' ∉ inside → (∀ following ∈ after.head?, following = '\n') →
    IsComment ('/' :: '/' :: inside) after
  | block {inside after} : ¬closingSign <:+: inside →
    IsComment ('/' :: '*' :: inside ++ closingSign) after

theorem closingSign_prefix {text : List Char} (isPrefix : closingSign <+: text) :
    ∃ rest, text = '*' :: '/' :: rest := by
  obtain ⟨rest, rfl⟩ := isPrefix
  exact ⟨rest, rfl⟩

/-- How far a block comment reaches is how far its first closing sign does. -/
theorem commentLength_some {text : List Char} {passed length : Nat}
    (closes : commentLength passed text = some length) :
    ∃ inside after, text = inside ++ closingSign ++ after ∧ ¬closingSign <:+: inside ∧
      length = passed + (inside ++ closingSign).length := by
  induction text generalizing passed with
  | nil => exact nomatch closes
  | cons first rest inductionHypothesis =>
    unfold commentLength at closes
    split at closes
    · contradiction
    · rename_i after isClosing
      cases closes
      cases isClosing
      exact ⟨[], after, rfl, by simp [closingSign], rfl⟩
    · rename_i notClosing isOther
      cases isOther
      obtain ⟨inside, after, rfl, none, rfl⟩ := inductionHypothesis closes
      refine ⟨first :: inside, after, rfl, fun isInfix => ?_, ?_⟩
      · rcases List.infix_cons_iff.mp isInfix with isPrefix | isInfix
        · obtain ⟨others, isInside⟩ := closingSign_prefix isPrefix
          cases isInside
          exact notClosing _ rfl rfl
        · exact none isInfix
      · simp only [List.cons_append, List.length_cons]
        omega

/-- A block comment is never closed where there is no closing sign. -/
theorem commentLength_none {text : List Char} {passed : Nat}
    (opens : commentLength passed text = none) : ¬closingSign <:+: text := by
  induction text generalizing passed with
  | nil => simp [closingSign]
  | cons first rest inductionHypothesis =>
    unfold commentLength at opens
    split at opens
    · contradiction
    · contradiction
    · rename_i notClosing isOther
      cases isOther
      intro isInfix
      rcases List.infix_cons_iff.mp isInfix with isPrefix | isInfix
      · obtain ⟨others, isText⟩ := closingSign_prefix isPrefix
        cases isText
        exact notClosing _ rfl rfl
      · exact inductionHypothesis opens isInfix

/-! ### Pieces -/

/-- The piece is what its text is called, before the text `after`: nothing stands behind a string or
a comment that is left open. -/
def Piece.Stands (after : List Char) : Piece → Prop
  | .token kind text => Lexeme kind text
  | .blank char => isBlank char = true
  | .comment text => IsComment text after
  | .stray char => isBlank char = false ∧ StartsNothing char
  | .openString text => after = [] ∧ ∃ inside, text = '"' :: inside ∧ '"' ∉ inside
  | .openComment text =>
    after = [] ∧ ∃ inside, text = '/' :: '*' :: inside ∧ ¬closingSign <:+: inside

theorem withEqual_stands (single double : Mark) (rest after : List Char) :
    (withEqual single double rest).Stands after := by
  unfold withEqual
  split <;> exact Lexeme.mark _

/-- What is left behind a run of characters begins with another one. -/
theorem head?_dropWhile {continues : Char → Bool} {text : List Char} :
    ∀ following ∈ (text.dropWhile continues).head?, continues following = false := by
  intro following isFirst
  have stopped := List.head?_dropWhile_not continues text
  rw [Option.mem_def.mp isFirst] at stopped
  exact stopped

theorem not_mem_takeWhile (text : List Char) (char : Char) :
    char ∉ text.takeWhile (· != char) := fun member =>
  absurd (List.mem_takeWhile_imp member) (by simp)

theorem slashPiece_stands {rest inside after : List Char}
    (isText : (slashPiece rest).text = '/' :: inside) (isRest : rest = inside ++ after) :
    (slashPiece rest).Stands after := by
  unfold slashPiece at isText ⊢
  split
  · rename_i inLine
    cases isText
    have isAfter : inLine.dropWhile (· != '\n') = after := by
      have both : inLine.takeWhile (· != '\n') ++ inLine.dropWhile (· != '\n') =
          inLine.takeWhile (· != '\n') ++ after :=
        List.takeWhile_append_dropWhile.trans (List.cons.inj isRest).2
      exact List.append_cancel_left both
    subst isAfter
    refine .line (not_mem_takeWhile inLine '\n') fun following isFirst => ?_
    simpa using head?_dropWhile following isFirst
  · rename_i inBlock
    split
    · rename_i length closes
      obtain ⟨inside, others, rfl, none, rfl⟩ := commentLength_some closes
      rw [Nat.zero_add, List.take_left]
      exact .block none
    · rename_i opens
      simp only [opens] at isText
      cases isText
      exact ⟨by simpa using isRest, inBlock, rfl, commentLength_none opens⟩
  · exact Lexeme.mark .slash

theorem stringPiece_stands {rest inside after : List Char}
    (isText : (stringPiece rest).text = '"' :: inside) (isRest : rest = inside ++ after) :
    (stringPiece rest).Stands after := by
  unfold stringPiece at isText ⊢
  dsimp only at isText ⊢
  split
  · rename_i isOpen
    simp only [isOpen] at isText
    cases isText
    refine ⟨by simpa using isRest, rest, rfl, fun member => ?_⟩
    exact absurd (List.dropWhile_eq_nil_iff.mp isOpen '"' member) (by simp)
  · exact Lexeme.string (not_mem_takeWhile rest '"')

theorem wordPiece_stands {first : Char} {rest : List Char} (starts : startsName first = true)
    (after : List Char) : (wordPiece first rest).Stands after := by
  unfold wordPiece
  dsimp only
  split
  · rename_i mark isReserved
    have spelled := congrArg String.toList (Mark.spelling_of_reserved? isReserved)
    rw [String.toList_ofList] at spelled
    exact spelled ▸ Lexeme.mark mark
  · rename_i unreserved
    exact .name starts (fun char member => List.mem_takeWhile_imp member) unreserved

theorem numberPiece_stands {first : Char} {rest : List Char} (isDigit : first.isDigit = true)
    (after : List Char) : (numberPiece (first :: rest)).Stands after := by
  have digits : (first :: rest).takeWhile Char.isDigit ≠ [] := by
    rw [List.takeWhile_cons, if_pos isDigit]
    exact List.cons_ne_nil _ _
  have areDigits (text : List Char) : ∀ char ∈ text.takeWhile Char.isDigit, char.isDigit = true :=
    fun char member => List.mem_takeWhile_imp member
  show Lexeme (.number (numberValue (numberDigits (first :: rest)))) _
  unfold numberDigits
  split
  · exact .number digits (areDigits _) (areDigits _)
  · exact .number digits (areDigits _) nofun

/-! ### Characters with which no token begins -/

/-- With which characters the tokens of a kind begin. -/
theorem Lexeme.starts {kind : TokenKind} {first : Char} {rest : List Char}
    (lexeme : Lexeme kind (first :: rest)) :
    (loneMark? first).isSome ∨ first ∈ ['!', '=', '<', '>', '/', '"'] ∨ first.isDigit = true ∨
      startsName first = true := by
  generalize isText : first :: rest = text at lexeme
  cases lexeme with
  | mark mark =>
    cases mark <;> cases isText <;> decide
  | name starts _ _ =>
    cases isText
    exact .inr (.inr (.inr starts))
  | string _ =>
    cases isText
    exact .inr (.inl (by decide))
  | @number digits decimals nonempty areDigits _ =>
    cases digits with
    | nil => exact absurd rfl nonempty
    | cons digit digits =>
      have isFirst : first = digit := by cases decimals <;> exact (List.cons.inj isText).1
      exact .inr (.inr (.inl (isFirst ▸ areDigits digit List.mem_cons_self)))

/-- A piece is found as what it is. -/
theorem first_stands {first : Char} {rest inside after : List Char}
    (isText : (Piece.first first rest).text = first :: inside) (isRest : rest = inside ++ after) :
    (Piece.first first rest).Stands after := by
  unfold Piece.first at isText ⊢
  split
  · exact Lexeme.mark _
  · rename_i notLone
    simp only [notLone] at isText
    split_ifs with isBang isEqual isLess isGreater isSlash isQuote blank isDigit starts
    · exact withEqual_stands _ _ rest after
    · exact withEqual_stands _ _ rest after
    · exact withEqual_stands _ _ rest after
    · exact withEqual_stands _ _ rest after
    · subst isSlash
      exact slashPiece_stands isText isRest
    · subst isQuote
      exact stringPiece_stands isText isRest
    · exact blank
    · exact numberPiece_stands isDigit after
    · exact wordPiece_stands starts after
    · refine ⟨Bool.eq_false_iff.mpr blank, fun kind others lexeme => ?_⟩
      rcases lexeme.starts with isLone | isSign | digit | starting
      · rw [notLone] at isLone
        cases isLone
      · simp only [List.mem_cons, List.not_mem_nil, or_false] at isSign
        tauto
      · exact isDigit digit
      · exact starts starting

/-- Every piece of a text stands before the pieces behind it. -/
theorem splitAfter_stands (covered : Nat) (text : List Char) (before : List Piece) (piece : Piece)
    (behind : List Piece) (isSplit : splitAfter covered text = before ++ piece :: behind) :
    piece.text ≠ [] ∧ piece.Stands (behind.flatMap Piece.text) := by
  induction text generalizing covered before with
  | nil =>
    have isNil : splitAfter covered [] = [] := by cases covered <;> rfl
    exact absurd (isNil.symm.trans isSplit) (by simp)
  | cons first rest inductionHypothesis =>
    cases covered with
    | succ covered => exact inductionHypothesis covered before isSplit
    | zero =>
      obtain ⟨inside, after, isText, isRest⟩ := (first_takes first rest).text
      have isSplit : Piece.first first rest ::
          splitAfter ((Piece.first first rest).text.length - 1) rest = before ++ piece :: behind :=
        isSplit
      cases before with
      | cons found before =>
        exact inductionHypothesis _ before (List.cons.inj isSplit).2
      | nil =>
        obtain ⟨rfl, rfl⟩ := List.cons.inj isSplit
        rw [splitAfter_text, isText, List.length_cons, Nat.add_sub_cancel]
        refine ⟨List.cons_ne_nil _ _, ?_⟩
        have isAfter : rest.drop inside.length = after := by rw [isRest, List.drop_left]
        rw [isAfter]
        exact first_stands isText isRest

/-! ### Tokens of a source -/

/-- Every token that is read is written as its kind demands, but for the end. -/
theorem readPieces_lexeme (line : Nat) (pieces : List Piece)
    (stands : ∀ piece ∈ pieces, ∃ after, piece.Stands after) {token : Token}
    (member : .ok token ∈ readPieces line pieces) :
    token.isEnd = true ∨ Lexeme token.kind token.lexeme.toList := by
  obtain ⟨start, _, rfl | ⟨piece, isPiece, isItem⟩⟩ := token_of_mem_readPieces member
  · exact .inl rfl
  · obtain ⟨kind, text, rfl, rfl⟩ := Piece.token_of_item? isItem
    obtain ⟨_, isLexeme⟩ := stands _ isPiece
    refine .inr ?_
    rwa [String.toList_ofList]

theorem scan_lexeme {source : String} {token : Token} (member : token ∈ (scan source).1) :
    token.isEnd = true ∨ Lexeme token.kind token.lexeme.toList := by
  refine readPieces_lexeme 1 (split source.toList) (fun piece isPiece => ?_)
    (mem_tokensOf.mp member)
  obtain ⟨before, behind, isSplit⟩ := List.append_of_mem isPiece
  exact ⟨_, (splitAfter_stands 0 source.toList before piece behind isSplit).2⟩

end Lox.Source
