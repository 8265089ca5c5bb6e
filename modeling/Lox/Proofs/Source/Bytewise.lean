/-
Scanning by bytes. Here the source stays where it is and a cursor moves over its UTF-8 bytes: what
follows is looked for among the bytes, loops go on for as long as they like, a byte may be taken
where there is none, and a part may be asked for that ends amid a character. The line is counted
along the way, in the five places where line ends are passed over: as a blank, inside a comment that
is closed or left open, and inside a string that is closed or left open. Cutting the text up into
pieces turns out to do the same, so that scanning by bytes always comes to an end, never leaves the
bytes and never cuts a character.

A scanner calls itself by `apply`, as readers of tokens by their places do.
-/

import Lox.Source.Scan

namespace Lox.Source.Bytewise

/-! ### Bytes -/

/-- The bytes of a text. -/
def bytes (text : List Char) : List UInt8 :=
  text.flatMap String.utf8EncodeChar

/-- The character whose number is the byte. From 128 on the byte is only a part of a character, and
this one is none of ASCII either. -/
def charOf (byte : UInt8) : Char :=
  .ofNat byte.toNat

/-- Where the bytes first occur, by the number of bytes before them. -/
def find? (wanted : List UInt8) : List UInt8 → Option Nat
  | [] => if wanted.isEmpty then some 0 else none
  | byte :: rest =>
    if wanted.isPrefixOf (byte :: rest) then some 0 else (find? wanted rest).map (· + 1)

/-- The text behind the given number of bytes, unless that is amid a character. -/
def behind? : Nat → List Char → Option (List Char)
  | 0, text => some text
  | _ + 1, [] => none
  | place + 1, first :: rest =>
    if first.utf8Size ≤ place + 1 then behind? (place + 1 - first.utf8Size) rest else none

/-- The text up to the given number of bytes, unless that is amid a character. -/
def upTo? : Nat → List Char → Option (List Char)
  | 0, _ => some []
  | _ + 1, [] => none
  | place + 1, first :: rest =>
    if first.utf8Size ≤ place + 1 then
      (upTo? (place + 1 - first.utf8Size) rest).map (first :: ·)
    else
      none

/-- The number that is spelled by digits, with at most one point between two of them. -/
def decimal? (text : List Char) : Option Float :=
  let digits := numberDigits text
  if digits.1 ≠ [] ∧ numberText digits = text then some (numberValue digits) else none

/-! ### Scanners -/

/-- Where the lexeme begins, the place of the next byte, its line, and whether the end was given
away. -/
structure Cursor where
  start : Nat
  place : Nat
  line : Nat
  ended : Bool

/-- The cursor before a source. -/
def Cursor.begin : Cursor := ⟨0, 0, 1, false⟩

/-- Why a scanner stops before its end. -/
inductive Stop where
  | error (error : LexicalError)
  /-- A byte was asked for that is not there, or a part that does not end between characters. -/
  | outOfRange

/-- A scanner of bytes. After an error the cursor is where it was then; a scanner that goes on
forever has no outcome. -/
abbrev Scanner := ExceptT Stop (StateT Cursor Option)

/-- What is there, if it is. -/
def inRange {α : Type} : Option α → Scanner α
  | some found => return found
  | none => throw .outOfRange

variable (source : List Char)

/-! ### The cursor -/

/-- Whether no byte is left. -/
def atEnd : Scanner Bool := do
  return decide ((bytes source).length ≤ (← get).place)

/-- Moves on over some bytes. -/
def moveOn (count : Nat) : Scanner Unit :=
  modify fun cursor => { cursor with place := cursor.place + count }

/-- Moves behind the last byte. -/
def moveToEnd : Scanner Unit :=
  modify fun cursor => { cursor with place := (bytes source).length }

/-- Takes the next byte. -/
def advance : Scanner UInt8 := do
  let byte ← inRange (bytes source)[(← get).place]?
  moveOn 1
  return byte

/-- A byte ahead of the cursor; zero where there is none. -/
def look (offset : Nat) : Scanner UInt8 := do
  return (bytes source).getD ((← get).place + offset) 0

/-- Takes the next byte if it is the given sign, and says whether it did. -/
def eat (sign : Char) : Scanner Bool := do
  if (← look source 0) == sign.toUInt8 && !(← atEnd source) then
    moveOn 1
    return true
  else
    return false

/-- Takes an equals sign if one follows, and gives the mark that this makes. -/
def withEqual (single double : Mark) : Scanner TokenKind := do
  return .mark (if ← eat source '=' then double else single)

/-- Takes bytes for as long as they are as wanted. -/
def takeWhile (wanted : Char → Bool) : Scanner Unit := do
  if wanted (charOf (← look source 0)) then
    moveOn 1
    (by apply takeWhile : _ → Scanner Unit) wanted
  else
    return
partial_fixpoint

/-- The bytes that are left. -/
def bytesLeft : Scanner (List UInt8) := do
  let place := (← get).place
  inRange (if place ≤ (bytes source).length then some ((bytes source).drop place) else none)

/-- The bytes of the lexeme. -/
def lexemeBytes : Scanner (List UInt8) := do
  let ⟨start, place, _, _⟩ ← get
  inRange (if start ≤ place ∧ place ≤ (bytes source).length then
    some (((bytes source).drop start).take (place - start)) else none)

/-- The text between two places. -/
def between (start stop : Nat) : Scanner (List Char) :=
  inRange (if start ≤ stop then (behind? start source).bind (upTo? (stop - start)) else none)

/-- The text of the lexeme. -/
def lexeme : Scanner (List Char) := do
  let cursor ← get
  between source cursor.start cursor.place

/-- Counts the line ends among bytes that are passed over. -/
def countLines (passed : List UInt8) : Scanner Unit :=
  modify fun cursor => { cursor with line := cursor.line + passed.count '\n'.toUInt8 }

/-! ### Lexemes -/

/-- Moves to the end of the line. -/
def skipLine : Scanner Unit := do
  match (← bytesLeft source).idxOf? '\n'.toUInt8 with
  | some length => moveOn length
  | none => moveToEnd source

/-- A block comment whose opening sign is taken. -/
def skipBlockComment : Scanner Unit := do
  let rest ← bytesLeft source
  match find? ['*'.toUInt8, '/'.toUInt8] rest with
  | some length =>
    countLines (rest.take length)
    moveOn (length + 2)
  | none =>
    let opened := (← get).line
    countLines rest
    moveToEnd source
    throw (.error ⟨opened, .openComment⟩)

/-- A string whose opening quote is taken. -/
def string : Scanner TokenKind := do
  let rest ← bytesLeft source
  match rest.idxOf? '"'.toUInt8 with
  | some length =>
    countLines (rest.take length)
    let place := (← get).place
    let contents ← between source place (place + length)
    moveOn (length + 1)
    return .string (String.ofList contents)
  | none =>
    countLines rest
    moveToEnd source
    throw (.error ⟨(← get).line, .openString⟩)

/-- Takes a point and the digits behind it if there are any. -/
def takeDecimals : Scanner Unit := do
  if (← look source 0) == '.'.toUInt8 && (charOf (← look source 1)).isDigit then
    moveOn 1
    takeWhile source Char.isDigit
  else
    return

/-- A number whose first digit is taken. -/
def number : Scanner TokenKind := do
  takeWhile source Char.isDigit
  takeDecimals source
  return .number ((decimal? (← lexeme source)).getD 0)

/-- A reserved word or a name whose first character is taken. -/
def word : Scanner TokenKind := do
  takeWhile source continuesName
  let spelling ← lexemeBytes source
  let reserved := Mark.reserved.find? fun mark => bytes mark.spelling.toList == spelling
  return (reserved.map TokenKind.mark).getD .identifier

/-- Takes the whole character of which the first byte is taken, and reports it. -/
def stray : Scanner (Option TokenKind) := do
  let ⟨start, _, line, _⟩ ← get
  let char := (← inRange (behind? start source)).headD '?'
  modify fun cursor => { cursor with place := start + char.utf8Size }
  throw (.error ⟨line, .strayCharacter char⟩)

/-- Takes a piece of which the first byte is taken, `first` as a character. A blank or a comment is
nothing. -/
def takePiece (first : Char) : Scanner (Option TokenKind) :=
  match loneMark? first with
  | some mark => return some (.mark mark)
  | none => do
    if first = '!' then return some (← withEqual source .bang .bangEqual)
    else if first = '=' then return some (← withEqual source .equal .equalEqual)
    else if first = '<' then return some (← withEqual source .less .lessEqual)
    else if first = '>' then return some (← withEqual source .greater .greaterEqual)
    else if first = ' ' ∨ first = '\r' ∨ first = '\t' then return none
    else if first = '\n' then
      modify fun cursor => { cursor with line := cursor.line + 1 }
      return none
    else if first = '/' then
      if ← eat source '/' then
        skipLine source
        return none
      else if ← eat source '*' then
        skipBlockComment source
        return none
      else
        return some (.mark .slash)
    else if first = '"' then return some (← string source)
    else if first.isDigit then return some (← number source)
    else if startsName first then return some (← word source)
    else stray source

/-- Takes a piece. -/
def scanPiece : Scanner (Option TokenKind) := do
  takePiece source (charOf (← advance source))

/-! ### Items -/

/-- Takes pieces up to the next token, which may be the end. -/
def scanToken : Scanner Token := do
  if ← atEnd source then
    modify fun cursor => { cursor with ended := true }
    return ⟨.endOfInput, "", (← get).line⟩
  else
    modify fun cursor => { cursor with start := cursor.place }
    match ← scanPiece source with
    | some kind =>
      let text ← lexeme source
      return ⟨kind, String.ofList text, (← get).line⟩
    | none => by apply scanToken
partial_fixpoint

/-- The next token or error; nothing behind the end. -/
def next : Scanner (Option Item) := do
  if (← get).ended then
    return none
  else
    tryCatch (do return some (.ok (← scanToken source))) fun
      | .error error => return some (.error error)
      | .outOfRange => throw .outOfRange

/-- The tokens and errors up to the end. -/
def allItems : Scanner (List Item) := do
  match ← next source with
  | some item => return item :: (← by apply allItems)
  | none => return []
partial_fixpoint

end Lox.Source.Bytewise
