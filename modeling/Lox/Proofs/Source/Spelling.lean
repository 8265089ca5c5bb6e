/-
How the tokens of a source are spelled: a mark by its spelling, and a name by no reserved word. So
the word of every name that is read from a source differs from `this` and `super`, by which the two
scopes around the methods of a class are known.
-/

import Lox.Proofs.Grammar.Reads
import Lox.Source.Scan

namespace Lox

/-- The words of sources. -/
def Vocabulary.spelled : Vocabulary where
  name word := Mark.reserved? word.name = none
  this word := word.name = Mark.thisWord.spelling
  super word := word.name = Mark.superWord.spelling
  line _ := True

theorem Mark.spelling_of_reserved? {word : String} {mark : Mark}
    (isReserved : Mark.reserved? word = some mark) : mark.spelling = word := by
  have found : (mark.spelling == word) = true :=
    List.find?_some (p := fun mark : Mark => mark.spelling == word) isReserved
  exact eq_of_beq found

namespace Source

/-! ### Pieces -/

/-- A piece whose text is as its kind demands. -/
def Piece.Spelled : Piece → Prop
  | .token (.mark mark) text => String.ofList text = mark.spelling
  | .token .identifier text => Mark.reserved? (String.ofList text) = none
  | _ => True

theorem ofMark_spelled (mark : Mark) : (Piece.ofMark mark).Spelled :=
  String.ofList_toList

theorem withEqual_spelled (single double : Mark) (rest : List Char) :
    (withEqual single double rest).Spelled := by
  unfold withEqual
  split <;> exact ofMark_spelled _

theorem slashPiece_spelled (rest : List Char) : (slashPiece rest).Spelled := by
  unfold slashPiece
  split
  · trivial
  · split <;> trivial
  · exact ofMark_spelled .slash

theorem stringPiece_spelled (rest : List Char) : (stringPiece rest).Spelled := by
  unfold stringPiece
  dsimp only
  split <;> trivial

theorem wordPiece_spelled (first : Char) (rest : List Char) : (wordPiece first rest).Spelled := by
  unfold wordPiece
  dsimp only
  split
  · rename_i mark isReserved
    exact (Mark.spelling_of_reserved? isReserved).symm
  · rename_i unreserved
    exact unreserved

theorem first_spelled (first : Char) (rest : List Char) : (Piece.first first rest).Spelled := by
  unfold Piece.first
  split
  · exact ofMark_spelled _
  · repeat' split
    all_goals first
      | exact withEqual_spelled _ _ _
      | exact slashPiece_spelled _
      | exact stringPiece_spelled _
      | exact wordPiece_spelled _ _
      | trivial

theorem splitAfter_spelled (covered : Nat) (text : List Char) :
    ∀ piece ∈ splitAfter covered text, piece.Spelled := by
  intro piece member
  obtain ⟨first, rest, rfl⟩ := first_of_mem_splitAfter member
  exact first_spelled first rest

/-! ### Tokens -/

/-- What is read off a piece is spelled as the piece is. -/
theorem item_admitted {line : Nat} {piece : Piece} {token : Token} (spelled : piece.Spelled)
    (isItem : piece.item? line = some (.ok token)) : Vocabulary.spelled.Admits token := by
  obtain ⟨kind, text, rfl, rfl⟩ := Piece.token_of_item? isItem
  cases kind with
  | mark mark =>
    have mine (other : Mark) (isMark : (mark == other) = true) :
        String.ofList text = other.spelling := by
      rw [← eq_of_beq isMark]
      exact spelled
    exact ⟨nofun, mine .thisWord, mine .superWord, trivial⟩
  | identifier => exact ⟨fun _ => spelled, nofun, nofun, trivial⟩
  | string contents => exact ⟨nofun, nofun, nofun, trivial⟩
  | number value => exact ⟨nofun, nofun, nofun, trivial⟩
  | endOfInput => exact ⟨nofun, nofun, nofun, trivial⟩

theorem readPieces_admitted (line : Nat) (pieces : List Piece)
    (spelled : ∀ piece ∈ pieces, piece.Spelled) :
    Vocabulary.spelled.AdmitsAll (tokensOf (readPieces line pieces)) := by
  intro token member
  obtain ⟨start, _, rfl | ⟨piece, isPiece, isItem⟩⟩ :=
    token_of_mem_readPieces (mem_tokensOf.mp member)
  · exact ⟨nofun, nofun, nofun, trivial⟩
  · exact item_admitted (spelled piece isPiece) isItem

/-- The tokens of a source are spelled as tokens are. -/
theorem scan_admitted (source : String) : Vocabulary.spelled.AdmitsAll (scan source).1 :=
  readPieces_admitted 1 (split source.toList) (splitAfter_spelled 0 source.toList)

end Source

end Lox
