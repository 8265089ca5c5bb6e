/-
This file reads bytes as UTF-8. Bytes are cut into segments: an encoded character, the longest start
of a character that goes wrong at the next byte, or a start that the input ends inside. Strict
reading stops at the first segment that is no character; lenient reading puts a replacement
character for it.
-/

namespace Lox.Text.Utf8

/-! ### Segments -/

/-- A segment of a sequence of bytes. -/
inductive Segment where
  /-- An encoded character of `length` bytes. -/
  | character (code : Nat) (length : Nat)
  /-- `length` bytes that no further byte can make a character. -/
  | invalid (length : Nat)
  /-- `length` bytes in which the input ends. -/
  | incomplete (length : Nat)
deriving Repr, DecidableEq

/-- The number of bytes in a segment. -/
def Segment.length : Segment → Nat
  | .character _ length => length
  | .invalid length => length
  | .incomplete length => length

/-- Whether a byte continues a character. -/
def isContinuation (byte : Nat) : Bool :=
  0x80 ≤ byte && byte ≤ 0xbf

/-- Whether `second` may follow the byte `first` that begins a character. The narrower ranges leave
out encodings that are too long, surrogates, and what is beyond the last character. -/
def mayFollow (first second : Nat) : Bool :=
  if first = 0xe0 then 0xa0 ≤ second && second ≤ 0xbf
  else if first = 0xed then 0x80 ≤ second && second ≤ 0x9f
  else if first = 0xf0 then 0x90 ≤ second && second ≤ 0xbf
  else if first = 0xf4 then 0x80 ≤ second && second ≤ 0x8f
  else isContinuation second

/-- The payload of a byte that continues a character, behind what was read before it. -/
def extend (code byte : Nat) : Nat :=
  code * 64 + byte % 64

/-- The segment in which `missing` further bytes continue the `length` bytes read so far. -/
def continued (code length : Nat) : Nat → List Nat → Segment
  | 0, _ => .character code length
  | _ + 1, [] => .incomplete length
  | missing + 1, byte :: rest =>
    if isContinuation byte then continued (extend code byte) (length + 1) missing rest
    else .invalid length

/-- The segment of a character whose first byte, with the payload `code`, asks for a second one and
`missing` further ones. -/
def multibyte (first code missing : Nat) : List Nat → Segment
  | [] => .incomplete 1
  | second :: rest =>
    if mayFollow first second then continued (extend code second) 2 missing rest
    else .invalid 1

/-- The segment that begins with a byte. -/
def segment (first : Nat) (rest : List Nat) : Segment :=
  if first < 0x80 then .character first 1
  else if 0xc2 ≤ first ∧ first ≤ 0xdf then multibyte first (first - 0xc0) 0 rest
  else if 0xe0 ≤ first ∧ first ≤ 0xef then multibyte first (first - 0xe0) 1 rest
  else if 0xf0 ≤ first ∧ first ≤ 0xf4 then multibyte first (first - 0xf0) 2 rest
  else .invalid 1

/-- The segments of bytes of which the first `covered` belong to a segment already found, behind the
segments found so far, last first. -/
def segmentsAfter (found : List Segment) : Nat → List Nat → List Segment
  | _, [] => found.reverse
  | covered + 1, _ :: rest => segmentsAfter found covered rest
  | 0, first :: rest =>
    let next := segment first rest
    segmentsAfter (next :: found) (next.length - 1) rest

/-- The segments of a sequence of bytes. -/
def segments (bytes : ByteArray) : List Segment :=
  segmentsAfter [] 0 (bytes.toList.map UInt8.toNat)

/-! ### Strict reading -/

/-- Why bytes are no UTF-8 text, and how many bytes before that are. -/
inductive DecodingError where
  | invalid (length index : Nat)
  | incomplete (index : Nat)
deriving Repr, DecidableEq

/-- The text of a decoding error. -/
def DecodingError.text : DecodingError → String
  | .invalid length index =>
    "invalid utf-8 sequence of " ++ Nat.repr length ++ " bytes from index " ++ Nat.repr index
  | .incomplete index => "incomplete utf-8 byte sequence from index " ++ Nat.repr index

/-- The text of segments that begin at an index, behind the characters read so far, last first. -/
def decodeSegments (index : Nat) (found : List Char) : List Segment → Except DecodingError String
  | [] => .ok (String.ofList found.reverse)
  | .character code length :: rest =>
    decodeSegments (index + length) (Char.ofNat code :: found) rest
  | .invalid length :: _ => .error (.invalid length index)
  | .incomplete _ :: _ => .error (.incomplete index)

/-- The text that the bytes encode. -/
def decode (bytes : ByteArray) : Except DecodingError String :=
  decodeSegments 0 [] (segments bytes)

/-! ### Lenient reading -/

/-- What stands for bytes that are no character. -/
def replacement : Char := '\ufffd'

/-- The character of a segment. -/
def Segment.leniently : Segment → Char
  | .character code _ => Char.ofNat code
  | _ => replacement

/-- The text of the bytes, with a replacement character for each segment that is none. -/
def decodeLeniently (bytes : ByteArray) : String :=
  String.ofList ((segments bytes).map Segment.leniently)

end Lox.Text.Utf8
