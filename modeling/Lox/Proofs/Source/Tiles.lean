/-
The pieces of a source are tiles: they stand side by side and cover all its bytes, each between two
characters, and what is reported of a source, tokens and errors, is told tile by tile. The line of
each is counted in the source itself, from its first byte on.
-/

import Lox.Proofs.Source.Scanned

namespace Lox.Source

open Bytewise

/-! ### Tiles -/

/-- A piece and all that stands before it in the source. -/
structure Tile where
  before : String
  piece : Piece

namespace Tile

variable (tile : Tile)

/-- The characters of the tile. -/
def text : String := String.ofList tile.piece.text

/-- The place of the first byte of the tile. -/
def start : Nat := tile.before.utf8ByteSize

/-- The place behind the last byte of the tile. -/
def stop : Nat := (tile.before ++ tile.text).utf8ByteSize

/-- The byte at the place belongs to the tile. -/
def Covers (place : Nat) : Prop := tile.start ≤ place ∧ place < tile.stop

/-- The line on which the tile begins. -/
def firstLine : Nat := 1 + newlines tile.before.toList

/-- The line on which the tile ends. -/
def lastLine : Nat := 1 + newlines (tile.before ++ tile.text).toList

/-- What is reported of the tile: a token on the line on which it ends, a stray character on its
line, an open string where the text ends and an open comment where it begins. -/
def item? : Option Item :=
  match tile.piece with
  | .token kind _ => some (.ok ⟨kind, tile.text, tile.lastLine⟩)
  | .blank _ => none
  | .comment _ => none
  | .stray char => some (.error ⟨tile.firstLine, .strayCharacter char⟩)
  | .openString _ => some (.error ⟨tile.lastLine, .openString⟩)
  | .openComment _ => some (.error ⟨tile.firstLine, .openComment⟩)

end Tile

/-- The tiles cut the source up between characters: each stands in it where it says and is what its
piece tells, the later ones lie behind the earlier ones, and every byte belongs to exactly one. -/
structure Tiling (source : String) (tiles : List Tile) : Prop where
  stands : ∀ tile ∈ tiles, ∃ after, source = tile.before ++ tile.text ++ after ∧
    tile.piece.Stands after.toList
  ordered : tiles.Pairwise fun earlier later => earlier.stop ≤ later.start
  covers : ∀ place < source.utf8ByteSize, ∃! tile, tile ∈ tiles ∧ tile.Covers place

/-- The pieces as tiles, of which the first stands behind the text `before`. -/
def tilesFrom (before : String) : List Piece → List Tile
  | [] => []
  | piece :: others => ⟨before, piece⟩ :: tilesFrom (before ++ String.ofList piece.text) others

/-- The characters of the pieces put together. -/
def textOf (pieces : List Piece) : String := String.ofList (pieces.flatMap Piece.text)

theorem textOf_cons (piece : Piece) (others : List Piece) :
    textOf (piece :: others) = String.ofList piece.text ++ textOf others :=
  String.ofList_append

variable {before : String} {pieces : List Piece}

/-! ### Places -/

/-- The tiles lie behind what is before them. -/
theorem tilesFrom_start {tile : Tile} (member : tile ∈ tilesFrom before pieces) :
    before.utf8ByteSize ≤ tile.start := by
  induction pieces generalizing before with
  | nil => exact absurd member List.not_mem_nil
  | cons piece others inductionHypothesis =>
    rcases List.mem_cons.mp member with rfl | inOthers
    · exact Nat.le_refl _
    · have later := inductionHypothesis inOthers
      rw [String.utf8ByteSize_append] at later
      omega

theorem tilesFrom_ordered (before : String) (pieces : List Piece) :
    (tilesFrom before pieces).Pairwise fun earlier later => earlier.stop ≤ later.start := by
  induction pieces generalizing before with
  | nil => exact .nil
  | cons piece others inductionHypothesis =>
    exact .cons (fun later member => tilesFrom_start member) (inductionHypothesis _)

/-- A byte behind what is before the tiles belongs to one of them. -/
theorem tilesFrom_covers {place : Nat} (lower : before.utf8ByteSize ≤ place)
    (upper : place < (before ++ textOf pieces).utf8ByteSize) :
    ∃ tile ∈ tilesFrom before pieces, tile.Covers place := by
  induction pieces generalizing before with
  | nil =>
    rw [show textOf [] = "" from rfl, String.append_empty] at upper
    exact absurd lower (Nat.not_le.mpr upper)
  | cons piece others inductionHypothesis =>
    by_cases here : place < (before ++ String.ofList piece.text).utf8ByteSize
    · exact ⟨⟨before, piece⟩, List.mem_cons_self, lower, here⟩
    · rw [textOf_cons, ← String.append_assoc] at upper
      obtain ⟨tile, member, covers⟩ := inductionHypothesis (Nat.not_lt.mp here) upper
      exact ⟨tile, List.mem_cons_of_mem _ member, covers⟩

/-- No byte belongs to two tiles of which the later ones lie behind the earlier ones. -/
theorem covers_unique {tiles : List Tile}
    (ordered : tiles.Pairwise fun earlier later => earlier.stop ≤ later.start) {tile other : Tile}
    {place : Nat} (member : tile ∈ tiles) (covers : tile.Covers place) (otherMember : other ∈ tiles)
    (otherCovers : other.Covers place) : other = tile := by
  have behind {earlier later : Tile} (behind : earlier.stop ≤ later.start)
      (covers : earlier.Covers place) (laterCovers : later.Covers place) : later = earlier :=
    absurd (Nat.lt_of_lt_of_le covers.2 behind) (Nat.not_lt.mpr laterCovers.1)
  induction ordered with
  | nil => exact absurd member List.not_mem_nil
  | cons isBehind _ inductionHypothesis =>
    rcases List.mem_cons.mp member with rfl | inRest
    · rcases List.mem_cons.mp otherMember with rfl | otherInRest
      · rfl
      · exact behind (isBehind other otherInRest) covers otherCovers
    · rcases List.mem_cons.mp otherMember with rfl | otherInRest
      · exact (behind (isBehind tile inRest) otherCovers covers).symm
      · exact inductionHypothesis inRest otherInRest

/-! ### What the tiles stand for -/

/-- Where the tiles are in the source, and what is behind them. -/
theorem tilesFrom_stands (before : String) (stands : ∀ earlier piece later,
      pieces = earlier ++ piece :: later → piece.Stands (later.flatMap Piece.text)) :
    ∀ tile ∈ tilesFrom before pieces, ∃ after,
      before ++ textOf pieces = tile.before ++ tile.text ++ after ∧
        tile.piece.Stands after.toList := by
  induction pieces generalizing before with
  | nil => exact fun _ member => absurd member List.not_mem_nil
  | cons piece others inductionHypothesis =>
    intro tile member
    rw [textOf_cons, ← String.append_assoc]
    rcases List.mem_cons.mp member with rfl | inOthers
    · refine ⟨textOf others, rfl, ?_⟩
      rw [textOf, String.toList_ofList]
      exact stands [] piece others rfl
    · exact inductionHypothesis _
        (fun earlier found later isOthers =>
          stands (piece :: earlier) found later (congrArg (piece :: ·) isOthers)) tile inOthers

theorem newlines_append (first second : String) :
    newlines (first ++ second).toList = newlines first.toList + newlines second.toList := by
  rw [String.toList_append]
  exact newlines_append_chars first.toList second.toList

/-- The pieces are read off tile by tile, and the end behind them. -/
theorem readPieces_tiles (before : String) (pieces : List Piece) :
    readPieces (1 + newlines before.toList) pieces =
      (tilesFrom before pieces).filterMap Tile.item? ++
        [.ok ⟨.endOfInput, "", 1 + newlines (before ++ textOf pieces).toList⟩] := by
  induction pieces generalizing before with
  | nil =>
    rw [show textOf [] = "" from rfl, String.append_empty]
    rfl
  | cons piece others inductionHypothesis =>
    have behind : 1 + newlines (before ++ String.ofList piece.text).toList =
        1 + newlines before.toList + newlines piece.text := by
      rw [newlines_append, String.toList_ofList, Nat.add_assoc]
    have item : piece.item? (1 + newlines before.toList) = (Tile.mk before piece).item? := by
      cases piece <;> simp only [Piece.item?, Tile.item?, Tile.firstLine, Tile.lastLine, Tile.text,
        Piece.text, newlines_append, String.toList_ofList, Nat.add_assoc]
    rw [readPieces, item, ← behind, inductionHypothesis, textOf_cons, ← String.append_assoc,
      tilesFrom, List.filterMap_cons]
    cases (Tile.mk before piece).item? <;> rfl

/-! ### How the tiles are scanned -/

/-- Each piece of a text is what begins with the character at its place. -/
theorem tilesFrom_first (before : String) (text : List Char) :
    ∀ tile ∈ tilesFrom before (split text), ∃ first rest,
      before.toList ++ text = tile.before.toList ++ first :: rest ∧
        Piece.first first rest = tile.piece := by
  generalize isSplit : split text = pieces
  induction pieces generalizing before text with
  | nil => exact fun _ member => absurd member List.not_mem_nil
  | cons piece others inductionHypothesis =>
    obtain ⟨first, rest, after, isText, isFirst, isCut, isOthers⟩ := split_eq_cons isSplit
    intro tile member
    rcases List.mem_cons.mp member with rfl | inOthers
    · exact ⟨first, rest, congrArg (before.toList ++ ·) isText, isFirst⟩
    · obtain ⟨first, rest, isSource, isPiece⟩ :=
        inductionHypothesis (before ++ String.ofList piece.text) after isOthers tile inOthers
      refine ⟨first, rest, isSource ▸ ?_, isPiece⟩
      rw [String.toList_append, String.toList_ofList, List.append_assoc, ← isCut]

/-- A tile of a source is scanned from its place on as what it is, up to its end. -/
theorem scanPiece_tile {source : String} {tile : Tile}
    (member : tile ∈ tilesFrom "" (split source.toList)) :
    outcome (scanPiece source.toList) ⟨tile.start, tile.start, tile.firstLine, false⟩ =
      some (found tile.firstLine tile.piece, ⟨tile.start, tile.stop, tile.lastLine, false⟩) := by
  obtain ⟨first, rest, isSource, isFirst⟩ := tilesFrom_first "" source.toList tile member
  have isStart : size tile.before.toList = tile.start := size_toList tile.before
  have isStop : size (tile.before.toList ++ tile.piece.text) = tile.stop := by
    rw [Tile.stop, ← size_toList, String.toList_append, Tile.text, String.toList_ofList]
  have isLast : tile.firstLine + newlines tile.piece.text = tile.lastLine := by
    rw [Tile.lastLine, newlines_append, Tile.text, String.toList_ofList, Tile.firstLine,
      Nat.add_assoc]
  have scanned := scanPiece_outcome tile.before.toList first rest tile.firstLine
  rw [isFirst, ← isSource, isStart, taken, within, isStart, isStop, isLast] at scanned
  exact scanned

/-- A source is cut up into tiles: tokens, blanks, whole comments, characters with which no token
begins, and at the end a string or a comment that is left open. What is reported of the source is
what is reported of its tiles, in order, with the lines that their places give them, and behind it
the one end of the source, on its last line. A cursor that moves over the bytes and counts the lines
takes each tile from its first byte to its last; from the beginning it gives what is reported of the
source and no more, and is then at the end of the source and on its last line. -/
theorem items_tiles (source : String) : ∃ tiles, Tiling source tiles ∧
    items source = tiles.filterMap Tile.item? ++
      [.ok ⟨.endOfInput, "", 1 + newlines source.toList⟩] ∧
    (∀ token, .ok token ∈ tiles.filterMap Tile.item? → token.isEnd = false) ∧
    (∀ tile ∈ tiles,
      outcome (scanPiece source.toList) ⟨tile.start, tile.start, tile.firstLine, false⟩ =
        some (found tile.firstLine tile.piece, ⟨tile.start, tile.stop, tile.lastLine, false⟩)) ∧
    ∃ last : Cursor, last.place = source.utf8ByteSize ∧ last.line = 1 + newlines source.toList ∧
      outcome (allItems source.toList) .begin = some (.ok (items source), last) ∧
      outcome (next source.toList) last = some (.ok none, last) := by
  have isSource : textOf (split source.toList) = source :=
    (congrArg String.ofList (splitAfter_text 0 source.toList)).trans String.ofList_toList
  have stands := tilesFrom_stands "" fun earlier piece later isSplit =>
    (splitAfter_stands 0 source.toList earlier piece later isSplit).2
  rw [String.empty_append, show textOf (splitAfter 0 source.toList) = source from isSource]
    at stands
  have ordered := tilesFrom_ordered "" (split source.toList)
  refine ⟨tilesFrom "" (split source.toList), ⟨stands, ordered, fun place inSource => ?_⟩, ?_, ?_,
    fun tile member => scanPiece_tile member, ?_⟩
  · rw [← isSource, ← @String.empty_append (textOf _)] at inSource
    obtain ⟨tile, member, covers⟩ := tilesFrom_covers (Nat.zero_le place) inSource
    exact ⟨tile, ⟨member, covers⟩, fun other ⟨otherMember, otherCovers⟩ =>
      covers_unique ordered member covers otherMember otherCovers⟩
  · have read := readPieces_tiles "" (split source.toList)
    rwa [String.empty_append, isSource] at read
  · intro token reported
    obtain ⟨⟨before, piece⟩, member, isItem⟩ := List.mem_filterMap.mp reported
    obtain ⟨after, _, isPiece⟩ := stands _ member
    cases piece with
    | token kind text =>
      cases isItem
      have notEnd := Lexeme.notEnd isPiece
      cases kind with
      | endOfInput => exact absurd rfl notEnd
      | _ => rfl
    | _ => cases isItem
  · obtain ⟨start, scanned⟩ := allItems_outcome [] source.toList 0 1
    exact ⟨_, size_toList source, rfl, scanned, next_ended source.toList start _ _⟩

end Lox.Source
