/-
The seam between two texts. A line end ends every piece but a string or a block comment that is left
open, so the pieces of two texts with a line end between them are those of the first, a blank, and
those of the second. Hence the tokens of a text without errors stay as they are when another text
follows on the next line, and the tokens of that other text are only moved to other lines.
-/

import Lox.Proofs.Grammar.Relined
import Lox.Source.Scan

namespace Lox.Source

/-! ### Runs of characters -/

section

variable {continues : Char → Bool} {text more : List Char}

theorem takeWhile_append_of_stop
    (stops : text.dropWhile continues = [] → more.takeWhile continues = []) :
    (text ++ more).takeWhile continues = text.takeWhile continues := by
  induction text with
  | nil => exact stops rfl
  | cons first rest inductionHypothesis =>
    rw [List.dropWhile_cons] at stops
    rw [List.cons_append, List.takeWhile_cons, List.takeWhile_cons]
    split
    · rename_i continuing
      rw [if_pos continuing] at stops
      rw [inductionHypothesis stops]
    · rfl

theorem dropWhile_append_of_stop
    (stops : text.dropWhile continues = [] → more.dropWhile continues = more) :
    (text ++ more).dropWhile continues = text.dropWhile continues ++ more := by
  induction text with
  | nil => exact stops rfl
  | cons first rest inductionHypothesis =>
    rw [List.dropWhile_cons] at stops
    rw [List.cons_append, List.dropWhile_cons, List.dropWhile_cons]
    split
    · rename_i continuing
      rw [if_pos continuing] at stops
      exact inductionHypothesis stops
    · rfl

end

/-! ### Pieces at the seam -/

/-- The piece is no string and no comment that is left open. -/
def Piece.IsClosed : Piece → Prop
  | .openString _ => False
  | .openComment _ => False
  | _ => True

variable (first : Char) (rest more : List Char)

theorem withEqual_seam (single double : Mark) :
    withEqual single double (rest ++ '\n' :: more) = withEqual single double rest := by
  cases rest with
  | nil => rfl
  | cons second others =>
    rw [List.cons_append]
    unfold withEqual
    split
    · rename_i isEqual
      cases isEqual
      rfl
    · rename_i notEqual
      split
      · rename_i isEqual
        cases isEqual
        exact absurd rfl (notEqual _)
      · rfl

theorem commentLength_append {text : List Char} {passed length : Nat}
    (closes : commentLength passed text = some length) (more : List Char) :
    commentLength passed (text ++ more) = some length ∧ length ≤ passed + text.length := by
  induction text generalizing passed with
  | nil => exact nomatch closes
  | cons first rest inductionHypothesis =>
    have later (closes : commentLength (passed + 1) rest = some length) :
        length ≤ passed + (first :: rest).length :=
      Nat.le_trans (inductionHypothesis closes).2
        (Nat.le_of_eq (Nat.add_right_comm passed 1 rest.length))
    unfold commentLength at closes ⊢
    split at closes
    · contradiction
    · cases closes
      rename_i isClosing
      cases isClosing
      exact ⟨rfl, by simp only [List.length_cons]; omega⟩
    · rename_i notClosing isOther
      cases isOther
      refine ⟨?_, later closes⟩
      rw [List.cons_append]
      split
      · contradiction
      · rename_i isClosing
        cases rest with
        | nil =>
          exact nomatch closes
        | cons second others =>
          cases isClosing
          exact (notClosing _ rfl rfl).elim
      · rename_i isOther
        cases isOther
        exact (inductionHypothesis closes).1

theorem slashPiece_seam (isClosed : (slashPiece rest).IsClosed) :
    slashPiece (rest ++ '\n' :: more) = slashPiece rest := by
  unfold slashPiece at isClosed ⊢
  split at isClosed
  · rename_i inLine
    show Piece.comment ('/' :: '/' :: (inLine ++ '\n' :: more).takeWhile _) = _
    rw [takeWhile_append_of_stop fun _ => rfl]
  · rename_i inBlock
    split at isClosed
    · rename_i length closes
      obtain ⟨closesToo, bound⟩ := commentLength_append closes ('\n' :: more)
      rw [Nat.zero_add] at bound
      simp only [List.cons_append, closesToo, List.take_append_of_le_length bound]
    · exact isClosed.elim
  · rename_i notLine notBlock
    cases rest with
    | nil => rfl
    | cons second others =>
      rw [List.cons_append]
      split
      · rename_i isLine
        cases isLine
        exact absurd rfl (notLine _)
      · rename_i isBlock
        cases isBlock
        exact absurd rfl (notBlock _)
      · rfl

theorem stringPiece_seam (isClosed : (stringPiece rest).IsClosed) :
    stringPiece (rest ++ '\n' :: more) = stringPiece rest := by
  unfold stringPiece at isClosed ⊢
  dsimp only at isClosed ⊢
  cases after : rest.dropWhile (· != '"') with
  | nil =>
    rw [after] at isClosed
    exact isClosed.elim
  | cons quote others =>
    rw [takeWhile_append_of_stop (by rw [after]; exact nofun),
      dropWhile_append_of_stop (by rw [after]; exact nofun), after]
    rfl

theorem numberPiece_seam (text : List Char) :
    numberPiece (text ++ '\n' :: more) = numberPiece text := by
  have same : numberDigits (text ++ '\n' :: more) = numberDigits text := by
    unfold numberDigits
    rw [takeWhile_append_of_stop fun _ => rfl, dropWhile_append_of_stop fun _ => rfl]
    cases text.dropWhile Char.isDigit with
    | nil => rfl
    | cons point decimals =>
      rw [List.cons_append]
      split
      · rename_i isPoint
        cases isPoint
        rw [takeWhile_append_of_stop fun _ => rfl]
        rfl
      · rename_i notPoint
        split
        · rename_i isPoint
          cases isPoint
          exact absurd rfl (notPoint _)
        · rfl
  rw [numberPiece, numberPiece, same]

theorem wordPiece_seam : wordPiece first (rest ++ '\n' :: more) = wordPiece first rest := by
  unfold wordPiece
  rw [takeWhile_append_of_stop fun _ => rfl]

/-- A line end behind a text changes none of its pieces but those that are left open. -/
theorem first_seam (isClosed : (Piece.first first rest).IsClosed) :
    Piece.first first (rest ++ '\n' :: more) = Piece.first first rest := by
  unfold Piece.first
  split
  · rfl
  · repeat' split
    · exact withEqual_seam rest more .bang .bangEqual
    · exact withEqual_seam rest more .equal .equalEqual
    · exact withEqual_seam rest more .less .lessEqual
    · exact withEqual_seam rest more .greater .greaterEqual
    · rename_i isSlash
      subst isSlash
      exact slashPiece_seam rest more isClosed
    · rename_i isQuote
      subst isQuote
      exact stringPiece_seam rest more isClosed
    · rfl
    · exact numberPiece_seam more (first :: rest)
    · exact wordPiece_seam first rest more
    · rfl

/-! ### What a piece takes -/

/-- The piece is of the characters `first` and `rest`, begins with `first`, and is no end of the
text. -/
structure Piece.Takes (piece : Piece) (first : Char) (rest : List Char) : Prop where
  text : ∃ inside after, piece.text = first :: inside ∧ rest = inside ++ after
  notEnd : ∀ text, piece ≠ .token .endOfInput text

theorem Piece.Takes.ofMark {mark : Mark} {inside : List Char}
    (spelling : mark.spelling.toList = first :: inside) (after : List Char) :
    (Piece.ofMark mark).Takes first (inside ++ after) :=
  ⟨⟨inside, after, spelling, rfl⟩, nofun⟩

theorem withEqual_takes {single double : Mark} (isSingle : single.spelling.toList = [first])
    (isDouble : double.spelling.toList = [first, '=']) :
    (withEqual single double rest).Takes first rest := by
  unfold withEqual
  split
  · rename_i after
    exact .ofMark first isDouble after
  · exact .ofMark first isSingle rest

theorem slashPiece_takes : (slashPiece rest).Takes '/' rest := by
  unfold slashPiece
  split
  · rename_i inLine
    exact ⟨⟨'/' :: inLine.takeWhile (· != '\n'), inLine.dropWhile (· != '\n'), rfl,
      congrArg ('/' :: ·) List.takeWhile_append_dropWhile.symm⟩, nofun⟩
  · rename_i inBlock
    split
    · rename_i length _
      exact ⟨⟨'*' :: inBlock.take length, inBlock.drop length, rfl,
        congrArg ('*' :: ·) (List.take_append_drop length inBlock).symm⟩, nofun⟩
    · exact ⟨⟨'*' :: inBlock, [], rfl, (List.append_nil _).symm⟩, nofun⟩
  · exact .ofMark '/' (show Mark.slash.spelling.toList = ['/'] from rfl) rest

theorem stringPiece_takes : (stringPiece rest).Takes '"' rest := by
  unfold stringPiece
  dsimp only
  split
  · exact ⟨⟨rest, [], rfl, (List.append_nil rest).symm⟩, nofun⟩
  · rename_i quote after isAfter
    have isQuote : quote = '"' := by
      have stopped := List.head?_dropWhile_not (· != '"') rest
      rw [isAfter] at stopped
      simpa using stopped
    refine ⟨⟨rest.takeWhile (· != '"') ++ ['"'], after, rfl, ?_⟩, nofun⟩
    calc rest = rest.takeWhile (· != '"') ++ rest.dropWhile (· != '"') :=
          List.takeWhile_append_dropWhile.symm
      _ = rest.takeWhile (· != '"') ++ ['"'] ++ after := by
          rw [isAfter, isQuote, List.append_assoc, List.singleton_append]

theorem numberPiece_takes (isDigit : first.isDigit = true) :
    (numberPiece (first :: rest)).Takes first rest := by
  refine ⟨?_, nofun⟩
  show ∃ inside after, numberText (numberDigits (first :: rest)) = _ ∧ _
  have digits : (first :: rest).takeWhile Char.isDigit = first :: rest.takeWhile Char.isDigit := by
    rw [List.takeWhile_cons, if_pos isDigit]
  have others : (first :: rest).dropWhile Char.isDigit = rest.dropWhile Char.isDigit := by
    rw [List.dropWhile_cons, if_pos isDigit]
  have whole : rest = rest.takeWhile Char.isDigit ++ rest.dropWhile Char.isDigit :=
    List.takeWhile_append_dropWhile.symm
  unfold numberDigits
  rw [digits, others]
  split
  · rename_i decimals isPoint
    rw [isPoint] at whole
    cases isDecimals : decimals.takeWhile Char.isDigit with
    | nil => exact ⟨_, _, rfl, whole⟩
    | cons decimal more =>
      refine ⟨rest.takeWhile Char.isDigit ++ '.' :: decimals.takeWhile Char.isDigit,
        decimals.dropWhile Char.isDigit, ?_, ?_⟩
      · rw [isDecimals]
        rfl
      · rw [List.append_assoc, List.cons_append, List.takeWhile_append_dropWhile]
        exact whole
  · exact ⟨_, _, rfl, whole⟩

theorem wordPiece_takes : (wordPiece first rest).Takes first rest := by
  unfold wordPiece
  dsimp only
  split <;>
    exact ⟨⟨rest.takeWhile continuesName, rest.dropWhile continuesName, rfl,
      List.takeWhile_append_dropWhile.symm⟩, nofun⟩

theorem loneMark?_spelling {mark : Mark} (isLone : loneMark? first = some mark) :
    mark.spelling.toList = [first] := by
  unfold loneMark? at isLone
  split at isLone <;> cases isLone <;> rfl

theorem first_takes : (Piece.first first rest).Takes first rest := by
  unfold Piece.first
  split
  · rename_i isLone
    exact .ofMark first (loneMark?_spelling first isLone) rest
  · repeat' split
    · rename_i isBang
      subst isBang
      exact withEqual_takes _ rest rfl rfl
    · rename_i isEqual
      subst isEqual
      exact withEqual_takes _ rest rfl rfl
    · rename_i isLess
      subst isLess
      exact withEqual_takes _ rest rfl rfl
    · rename_i isGreater
      subst isGreater
      exact withEqual_takes _ rest rfl rfl
    · rename_i isSlash
      exact isSlash ▸ slashPiece_takes rest
    · rename_i isQuote
      exact isQuote ▸ stringPiece_takes rest
    · exact ⟨⟨[], rest, rfl, rfl⟩, nofun⟩
    · rename_i isDigit
      exact numberPiece_takes first rest isDigit
    · exact wordPiece_takes first rest
    · exact ⟨⟨[], rest, rfl, rfl⟩, nofun⟩

/-! ### Splitting two texts -/

/-- The pieces put together are the text, but for what is covered. -/
theorem splitAfter_text (covered : Nat) (text : List Char) :
    (splitAfter covered text).flatMap Piece.text = text.drop covered := by
  induction text generalizing covered with
  | nil => cases covered <;> rfl
  | cons first rest inductionHypothesis =>
    cases covered with
    | succ covered => exact inductionHypothesis covered
    | zero =>
      obtain ⟨inside, after, isText, isRest⟩ := (first_takes first rest).text
      show (Piece.first first rest).text ++ List.flatMap Piece.text
        (splitAfter ((Piece.first first rest).text.length - 1) rest) = first :: rest
      rw [inductionHypothesis, isText, isRest]
      show first :: (inside ++ List.drop inside.length (inside ++ after)) = _
      rw [List.drop_left]

/-- The pieces of two texts with a line end between them. -/
theorem splitAfter_append (covered : Nat) (text more : List Char) (bound : covered ≤ text.length)
    (closed : ∀ piece ∈ splitAfter covered text, piece.IsClosed) :
    splitAfter covered (text ++ '\n' :: more) =
      splitAfter covered text ++ .blank '\n' :: split more := by
  induction text generalizing covered with
  | nil =>
    obtain rfl := Nat.le_zero.mp bound
    rfl
  | cons first rest inductionHypothesis =>
    cases covered with
    | succ covered => exact inductionHypothesis covered (Nat.le_of_succ_le_succ bound) closed
    | zero =>
      obtain ⟨inside, after, isText, isRest⟩ := (first_takes first rest).text
      have bound : (Piece.first first rest).text.length - 1 ≤ rest.length := by
        rw [isText, isRest, List.length_append]
        exact Nat.le_add_right _ _
      have closedHere := closed _ List.mem_cons_self
      have others := inductionHypothesis _ bound fun piece member =>
        closed piece (List.mem_cons_of_mem _ member)
      show Piece.first first (rest ++ '\n' :: more) ::
        splitAfter ((Piece.first first (rest ++ '\n' :: more)).text.length - 1)
          (rest ++ '\n' :: more) = _
      rw [first_seam first rest more closedHere, others]
      rfl

theorem splitAfter_notEnd (covered : Nat) (text : List Char) :
    ∀ piece ∈ splitAfter covered text, ∀ text, piece ≠ .token .endOfInput text := by
  intro piece member
  obtain ⟨first, rest, rfl⟩ := first_of_mem_splitAfter member
  exact (first_takes first rest).notEnd

/-! ### Reading two texts -/

/-- The item on its new line. -/
def Item.reline (line : Nat → Nat) : Item → Item
  | .ok token => .ok (token.reline line)
  | .error error => .error ⟨line error.line, error.problem⟩

/-- Pieces are read from another line on as they are read, with every line as far behind. -/
theorem readPieces_reline (line distance : Nat) (pieces : List Piece) :
    readPieces (line + distance) pieces =
      (readPieces line pieces).map (Item.reline (· + distance)) := by
  induction pieces generalizing line with
  | nil => rfl
  | cons piece rest inductionHypothesis =>
    have others : readPieces (line + distance + newlines piece.text) rest =
        (readPieces (line + newlines piece.text) rest).map (Item.reline (· + distance)) := by
      rw [Nat.add_right_comm, inductionHypothesis]
    have item : piece.item? (line + distance) =
        (piece.item? line).map (Item.reline (· + distance)) := by
      cases piece <;>
        simp only [Piece.item?, Option.map, Item.reline, Token.reline, Nat.add_right_comm]
    rw [readPieces, readPieces, others, item]
    cases piece.item? line <;> rfl

/-- What the pieces of the first text are read as, whatever pieces follow them. -/
theorem readPieces_append (line : Nat) (pieces : List Piece)
    (notEnd : ∀ piece ∈ pieces, ∀ text, piece ≠ .token .endOfInput text) :
    ∃ beginning, (∀ token, .ok token ∈ beginning → token.isEnd = false) ∧
      ∀ more, readPieces line (pieces ++ more) =
        beginning ++ readPieces (line + newlines (pieces.flatMap Piece.text)) more := by
  induction pieces generalizing line with
  | nil => exact ⟨[], nofun, fun _ => rfl⟩
  | cons piece rest inductionHypothesis =>
    obtain ⟨beginning, notEnds, reads⟩ := inductionHypothesis (line + newlines piece.text)
      fun piece member => notEnd piece (List.mem_cons_of_mem _ member)
    refine ⟨(piece.item? line).toList ++ beginning, ?_, fun more => ?_⟩
    · intro token member
      rcases List.mem_append.mp member with here | later
      · obtain ⟨kind, text, rfl, rfl⟩ := Piece.token_of_item? (Option.mem_toList.mp here)
        cases kind with
        | endOfInput => exact absurd rfl (notEnd _ List.mem_cons_self text)
        | _ => rfl
      · exact notEnds token later
    · have lines : newlines ((piece :: rest).flatMap Piece.text) =
          newlines piece.text + newlines (rest.flatMap Piece.text) := by
        rw [List.flatMap_cons]
        exact List.count_append
      rw [List.cons_append, readPieces, reads, lines, ← Nat.add_assoc]
      cases piece.item? line <;> rfl

/-- Tokens are on the line from which on pieces are read, or behind it. -/
theorem readPieces_line (line : Nat) (pieces : List Piece) {token : Token}
    (member : .ok token ∈ readPieces line pieces) : line ≤ token.line := by
  obtain ⟨start, behind, rfl | ⟨piece, _, isItem⟩⟩ := token_of_mem_readPieces member
  · exact behind
  · obtain ⟨kind, text, rfl, rfl⟩ := Piece.token_of_item? isItem
    exact Nat.le_add_right_of_le behind

/-- No token is on an earlier line than one before it. -/
theorem readPieces_ordered (line : Nat) (pieces : List Piece) :
    (tokensOf (readPieces line pieces)).Pairwise fun early late => early.line ≤ late.line := by
  induction pieces generalizing line with
  | nil => exact List.pairwise_singleton _ _
  | cons piece rest inductionHypothesis =>
    have others := inductionHypothesis (line + newlines piece.text)
    rw [readPieces]
    cases piece with
    | token kind text =>
      exact List.pairwise_cons.mpr
        ⟨fun late member => readPieces_line _ _ (mem_tokensOf.mp member), others⟩
    | _ => exact others

/-- The error is of something else than a string or a comment that is left open. -/
def LexicalError.IsInside (error : LexicalError) : Prop :=
  error.problem ≠ .openString ∧ error.problem ≠ .openComment

instance (error : LexicalError) : Decidable error.IsInside :=
  inferInstanceAs (Decidable (error.problem ≠ .openString ∧ error.problem ≠ .openComment))

/-- Where no error says so, nothing is left open. -/
theorem readPieces_closed (line : Nat) (pieces : List Piece)
    (inside : ∀ error ∈ errorsOf (readPieces line pieces), error.IsInside) :
    ∀ piece ∈ pieces, piece.IsClosed := by
  induction pieces generalizing line with
  | nil => exact nofun
  | cons first rest inductionHypothesis =>
    intro piece member
    rcases List.mem_cons.mp member with rfl | inRest
    · cases piece with
      | openString => exact absurd rfl (inside _ List.mem_cons_self).1
      | openComment => exact absurd rfl (inside _ List.mem_cons_self).2
      | _ => trivial
    · refine inductionHypothesis (line + newlines first.text) ?_ piece inRest
      intro error isLater
      refine inside error ?_
      cases first with
      | token | blank | comment => exact isLater
      | stray | openString | openComment => exact List.mem_cons_of_mem _ isLater

/-! ### Scanning two texts -/

open Grammar (OnlyEnd)

/-- The end of a source, which is on its last line. -/
def endOf (source : String) : Token :=
  ⟨.endOfInput, "", 1 + newlines source.toList⟩

/-- A source is read in the same way whatever pieces follow, up to its end. -/
theorem exists_beginning (source : String) :
    ∃ beginning, OnlyEnd (tokensOf beginning) (endOf source) ∧
      items source = beginning ++ [.ok (endOf source)] ∧
      ∀ more, readPieces 1 (split source.toList ++ more) =
        beginning ++ readPieces (1 + newlines source.toList) more := by
  obtain ⟨beginning, notEnds, reads⟩ :=
    readPieces_append 1 (split source.toList) (splitAfter_notEnd 0 source.toList)
  have lines : (split source.toList).flatMap Piece.text = source.toList :=
    splitAfter_text 0 source.toList
  rw [lines] at reads
  have onlyEnd : OnlyEnd (tokensOf beginning) (endOf source) :=
    ⟨rfl, fun token member => notEnds token (mem_tokensOf.mp member)⟩
  refine ⟨beginning, onlyEnd, ?_, reads⟩
  have all := reads []
  rwa [List.append_nil] at all

theorem tokensOf_append (items more : List Item) :
    tokensOf (items ++ more) = tokensOf items ++ tokensOf more :=
  List.filterMap_append

theorem errorsOf_append (items more : List Item) :
    errorsOf (items ++ more) = errorsOf items ++ errorsOf more :=
  List.filterMap_append

/-- The tokens of a source end with the only end among them. -/
theorem scan_onlyEnd (source : String) :
    ∃ body last, (scan source).1 = body ++ [last] ∧ OnlyEnd body last := by
  obtain ⟨beginning, onlyEnd, whole, _⟩ := exists_beginning source
  refine ⟨tokensOf beginning, endOf source, ?_, onlyEnd⟩
  show tokensOf (items source) = _
  rw [whole, tokensOf_append]
  rfl

/-- No token is on a line zero. -/
theorem scan_line_pos {source : String} {token : Token} (member : token ∈ (scan source).1) :
    0 < token.line :=
  readPieces_line 1 _ (mem_tokensOf.mp member)

theorem scan_ordered (source : String) :
    (scan source).1.Pairwise fun early late => early.line ≤ late.line :=
  readPieces_ordered 1 _

/-- The line of a second source, counted from the first line of a source before it. -/
def lineBehind (first : String) (line : Nat) : Nat :=
  line + (newlines first.toList + 1)

theorem tokensOf_reline (line : Nat → Nat) (items : List Item) :
    tokensOf (items.map (Item.reline line)) = (tokensOf items).map (·.reline line) := by
  induction items with
  | nil => rfl
  | cons item rest inductionHypothesis =>
    cases item with
    | error error => exact inductionHypothesis
    | ok token => exact congrArg (token.reline line :: ·) inductionHypothesis

theorem errorsOf_reline (line : Nat → Nat) (items : List Item) :
    errorsOf (items.map (Item.reline line)) =
      (errorsOf items).map fun error => ⟨line error.line, error.problem⟩ := by
  induction items with
  | nil => rfl
  | cons item rest inductionHypothesis =>
    cases item with
    | error error => exact congrArg (_ :: ·) inductionHypothesis
    | ok token => exact inductionHypothesis

/-- Behind a source that leaves nothing open, and a line end, what is read of a source is what is
read of it by itself, on other lines. -/
theorem items_append (first second : String)
    (inside : ∀ error ∈ (scan first).2, error.IsInside) :
    ∃ beginning, OnlyEnd (tokensOf beginning) (endOf first) ∧
      items first = beginning ++ [.ok (endOf first)] ∧
      items (first ++ "\n" ++ second) =
        beginning ++ (items second).map (Item.reline (lineBehind first)) := by
  obtain ⟨beginning, onlyEnd, whole, reads⟩ := exists_beginning first
  have text : (first ++ "\n" ++ second).toList = first.toList ++ '\n' :: second.toList := by
    rw [String.toList_append, String.toList_append, List.append_assoc]
    rfl
  have pieces : split (first ++ "\n" ++ second).toList =
      split first.toList ++ .blank '\n' :: split second.toList := by
    rw [text]
    exact splitAfter_append 0 _ _ (Nat.zero_le _) (readPieces_closed 1 _ inside)
  refine ⟨beginning, onlyEnd, whole, ?_⟩
  show readPieces 1 (split (first ++ "\n" ++ second).toList) = _
  rw [pieces, reads]
  show beginning ++ readPieces (1 + newlines first.toList + 1) (split second.toList) = _
  rw [Nat.add_assoc, readPieces_reline]
  rfl

/-- Behind a source without errors and a line end, a source is scanned as it is, on other lines. -/
theorem scan_append (first second : String) (clean : (scan first).2 = []) :
    ∃ body last, (scan first).1 = body ++ [last] ∧ OnlyEnd body last ∧
      scan (first ++ "\n" ++ second) =
        (body ++ (scan second).1.map (·.reline (lineBehind first)),
          (scan second).2.map fun error => ⟨lineBehind first error.line, error.problem⟩) := by
  obtain ⟨beginning, onlyEnd, whole, both⟩ := items_append first second (by
    rw [clean]
    exact nofun)
  have noErrors : errorsOf beginning = [] := by
    have none : errorsOf (beginning ++ [.ok (endOf first)]) = [] := whole ▸ clean
    rw [errorsOf_append] at none
    exact (List.append_eq_nil_iff.mp none).1
  refine ⟨tokensOf beginning, endOf first, ?_, onlyEnd, ?_⟩
  · show tokensOf (items first) = _
    rw [whole, tokensOf_append]
    rfl
  · show (tokensOf (items _), errorsOf (items _)) = _
    rw [both, tokensOf_append, errorsOf_append, noErrors, tokensOf_reline, errorsOf_reline]
    rfl

/-- The items of a text that leaves no string and no block comment open, and of any text on the line
behind it, are those of the first without its end, and those of the second by itself, each as many
lines further down as there are up to that line. Stray characters in either are no hindrance. -/
theorem items_joined (first second : String) (inside : ∀ error ∈ (scan first).2, error.IsInside) :
    (items first).getLast? = some (.ok ⟨.endOfInput, "", 1 + newlines first.toList⟩) ∧
      items (first ++ "\n" ++ second) = (items first).dropLast ++
        (items second).map (Item.reline (· + (1 + newlines first.toList))) := by
  obtain ⟨beginning, _, whole, both⟩ := items_append first second inside
  refine ⟨?_, ?_⟩
  · rw [whole, List.getLast?_concat]
    rfl
  · rw [both, whole, List.dropLast_concat, Nat.add_comm 1]
    rfl

/-- A stray character, a number with a point behind it and a slash, and another slash on the next
line. -/
theorem items_joined_slashes :
    (∀ error ∈ (scan "é 1./").2, error.IsInside) ∧
      items ("é 1./" ++ "\n" ++ "/ b") = (items "é 1./").dropLast ++
        (items "/ b").map (Item.reline (· + (1 + newlines "é 1./".toList))) :=
  ⟨by decide, (items_joined "é 1./" "/ b" (by decide)).2⟩

end Lox.Source
