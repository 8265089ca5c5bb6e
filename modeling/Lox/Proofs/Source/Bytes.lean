/-
Texts and their bytes. A character of ASCII is one byte, and that byte is part of no other
character; so what is looked for among the bytes of a text is found where it is among its
characters, and places of bytes that are reached so are never amid a character.
-/

import Lox.Proofs.Source.Bytewise
import Lox.Proofs.Source.Lexeme

namespace Lox.Source.Bytewise

/-! ### Sizes -/

/-- The number of bytes of a text. -/
def size (text : List Char) : Nat := (bytes text).length

theorem bytes_append (first second : List Char) :
    bytes (first ++ second) = bytes first ++ bytes second :=
  List.flatMap_append

theorem size_append (first second : List Char) :
    size (first ++ second) = size first + size second := by
  unfold size
  rw [bytes_append, List.length_append]

theorem drop_bytes (taken rest : List Char) :
    (bytes (taken ++ rest)).drop (size taken) = bytes rest := by
  rw [bytes_append]
  exact List.drop_left

theorem take_bytes (taken rest : List Char) :
    (bytes (taken ++ rest)).take (size taken) = bytes taken := by
  rw [bytes_append]
  exact List.take_left

theorem size_cons (first : Char) (rest : List Char) :
    size (first :: rest) = first.utf8Size + size rest := by
  show (String.utf8EncodeChar first ++ bytes rest).length = _
  rw [List.length_append, String.length_utf8EncodeChar]
  rfl

theorem size_toList (text : String) : size text.toList = text.utf8ByteSize := by
  have encoded : (String.ofList text.toList).toByteArray = text.toList.utf8Encode :=
    String.toByteArray_ofList
  rw [String.ofList_toList] at encoded
  rw [← String.size_toByteArray, encoded, List.utf8Encode, List.size_toByteArray]
  rfl

/-- A text is told by its bytes. -/
theorem bytes_injective : Function.Injective bytes := fun first second same => by
  refine String.ofList_injective (String.toByteArray_inj.mp ?_)
  rw [String.toByteArray_ofList, String.toByteArray_ofList, List.utf8Encode, List.utf8Encode]
  exact congrArg List.toByteArray same

/-! ### Characters of ASCII -/

/-- The character is one of ASCII. -/
def Ascii (char : Char) : Prop := char.toNat < 128

instance (char : Char) : Decidable (Ascii char) :=
  inferInstanceAs (Decidable (char.toNat < 128))

theorem toNat_charOf (byte : UInt8) : (charOf byte).toNat = byte.toNat := by
  have small := byte.toNat_lt
  have valid : byte.toNat.isValidChar := .inl (by omega)
  rw [charOf, Char.ofNat, dif_pos valid]
  rfl

section

variable {char : Char} (ascii : Ascii char)

include ascii

theorem Ascii.utf8Size : char.utf8Size = 1 := by
  rw [Char.utf8Size_eq_one_iff, UInt32.le_iff_toNat_le]
  exact Nat.le_of_lt_succ ascii

theorem Ascii.bytes : String.utf8EncodeChar char = [char.toUInt8] :=
  String.utf8EncodeChar_eq_singleton ascii.utf8Size

theorem Ascii.toNat_toUInt8 : char.toUInt8.toNat = char.toNat := by
  show char.val.toUInt8.toNat = char.val.toNat
  rw [UInt32.toNat_toUInt8]
  exact Nat.mod_eq_of_lt (Nat.lt_trans ascii (by decide))

theorem Ascii.charOf_toUInt8 : charOf char.toUInt8 = char := by
  refine Char.toNat_inj.mp ?_
  rw [toNat_charOf, ascii.toNat_toUInt8]

end

theorem exists_utf8EncodeChar (char : Char) :
    ∃ byte others, String.utf8EncodeChar char = byte :: others :=
  List.exists_cons_of_length_pos (String.length_utf8EncodeChar char ▸ char.utf8Size_pos)

/-- The bytes of any other character are none of ASCII. -/
theorem le_of_mem_utf8EncodeChar {char : Char} (other : ¬Ascii char) {byte : UInt8}
    (member : byte ∈ String.utf8EncodeChar char) : 128 ≤ byte.toNat := by
  have large : 128 ≤ char.val.toNat := Nat.not_lt.mp other
  unfold String.utf8EncodeChar at member
  dsimp only at member
  rw [if_neg (by omega)] at member
  split_ifs at member <;>
    simp only [List.mem_cons, List.not_mem_nil, or_false] at member <;>
    rcases member with rfl | rfl | rfl | rfl <;> simp <;> omega

/-- A byte of ASCII is part of no character but its own. -/
theorem Ascii.mem_utf8EncodeChar {char other : Char} (ascii : Ascii char) :
    char.toUInt8 ∈ String.utf8EncodeChar other ↔ other = char := by
  refine ⟨fun member => ?_, fun isChar => ?_⟩
  · by_cases otherAscii : Ascii other
    · rw [otherAscii.bytes, List.mem_singleton] at member
      rw [← otherAscii.charOf_toUInt8, ← member, ascii.charOf_toUInt8]
    · have large := le_of_mem_utf8EncodeChar otherAscii member
      rw [ascii.toNat_toUInt8] at large
      exact absurd ascii (Nat.not_lt.mpr large)
  · rw [isChar, ascii.bytes]
    exact List.mem_singleton_self _

/-- A text whose bytes begin with a byte of ASCII begins with its character. -/
theorem Ascii.eq_cons {char : Char} (ascii : Ascii char) {text : List Char} {others : List UInt8}
    (isBytes : Bytewise.bytes text = char.toUInt8 :: others) : ∃ rest, text = char :: rest := by
  cases text with
  | nil => cases isBytes
  | cons first rest =>
    obtain ⟨byte, more, isFirst⟩ := exists_utf8EncodeChar first
    have isByte : String.utf8EncodeChar first ++ Bytewise.bytes rest = char.toUInt8 :: others :=
      isBytes
    rw [isFirst] at isByte
    obtain rfl := (List.cons.inj isByte).1
    obtain rfl := ascii.mem_utf8EncodeChar.mp (isFirst ▸ List.mem_cons_self)
    exact ⟨rest, rfl⟩

theorem Ascii.mem_bytes {char : Char} (ascii : Ascii char) {text : List Char} :
    char.toUInt8 ∈ Bytewise.bytes text ↔ char ∈ text := by
  rw [Bytewise.bytes, List.mem_flatMap]
  simp only [ascii.mem_utf8EncodeChar, exists_eq_right]

/-! ### The next byte -/

/-- Only characters of ASCII are as wanted; that of number zero, for which the end is taken, is
not. -/
structure Plain (wanted : Char → Bool) : Prop where
  ascii : ∀ char, wanted char = true → Ascii char
  zero : wanted '\x00' = false

theorem Plain.eq_false {wanted : Char → Bool} (plain : Plain wanted) {char : Char}
    (other : ¬Ascii char) : wanted char = false :=
  Bool.eq_false_iff.mpr fun isWanted => other (plain.ascii char isWanted)

/-- No byte of another character is as wanted. -/
theorem Plain.other {wanted : Char → Bool} (plain : Plain wanted) {char : Char}
    (other : ¬Ascii char) {byte : UInt8} (member : byte ∈ String.utf8EncodeChar char) :
    wanted (charOf byte) = false := by
  have large := le_of_mem_utf8EncodeChar other member
  refine Bool.eq_false_iff.mpr fun isWanted => ?_
  have small : (charOf byte).toNat < 128 := plain.ascii _ isWanted
  rw [toNat_charOf] at small
  exact absurd small (Nat.not_lt.mpr large)

/-- The first byte is as wanted where the first character is. -/
theorem Plain.head {wanted : Char → Bool} (plain : Plain wanted) (text : List Char) :
    wanted (charOf ((bytes text).getD 0 0)) = text.head?.any wanted := by
  cases text with
  | nil => exact plain.zero
  | cons first rest =>
    show _ = wanted first
    by_cases ascii : Ascii first
    · have isFirst : (bytes (first :: rest)).getD 0 0 = first.toUInt8 := by
        show (String.utf8EncodeChar first ++ bytes rest).getD 0 0 = _
        rw [ascii.bytes]
        rfl
      rw [isFirst, ascii.charOf_toUInt8]
    · obtain ⟨byte, others, isBytes⟩ := exists_utf8EncodeChar first
      have isFirst : (bytes (first :: rest)).getD 0 0 = byte := by
        show (String.utf8EncodeChar first ++ bytes rest).getD 0 0 = _
        rw [isBytes]
        rfl
      rw [isFirst, plain.eq_false ascii]
      exact plain.other ascii (isBytes ▸ List.mem_cons_self)

theorem plain_isDigit : Plain Char.isDigit where
  ascii char isDigit := by
    have isFigure : (decide ('0'.val ≤ char.val) && decide (char.val ≤ '9'.val)) = true := isDigit
    simp only [Bool.and_eq_true, decide_eq_true_eq, UInt32.le_iff_toNat_le] at isFigure
    exact Nat.lt_of_le_of_lt isFigure.2 (by decide)
  zero := rfl

theorem plain_continuesName : Plain continuesName where
  ascii char continues := by
    have isPart : ((decide ('A'.val ≤ char.val ∧ char.val ≤ 'Z'.val) ||
        (decide ('a'.val ≤ char.val) && decide (char.val ≤ 'z'.val))) || char.isDigit ||
        char == '_') = true := continues
    simp only [Bool.or_eq_true, Bool.and_eq_true, decide_eq_true_eq, UInt32.le_iff_toNat_le,
      beq_iff_eq] at isPart
    rcases isPart with ((isUpper | isLower) | isDigit) | rfl
    · exact Nat.lt_of_le_of_lt isUpper.2 (by decide)
    · exact Nat.lt_of_le_of_lt isLower.2 (by decide)
    · exact plain_isDigit.ascii char isDigit
    · decide
  zero := rfl

theorem plain_sign {sign : Char} (ascii : Ascii sign) (notZero : sign ≠ '\x00') :
    Plain (· == sign) where
  ascii _ isSign := eq_of_beq isSign ▸ ascii
  zero := beq_false_of_ne notZero.symm

theorem Ascii.beq_toUInt8 {sign : Char} (ascii : Ascii sign) (byte : UInt8) :
    (byte == sign.toUInt8) = (charOf byte == sign) := by
  refine Bool.eq_iff_iff.mpr ⟨fun same => ?_, fun same => ?_⟩
  · rw [eq_of_beq same, ascii.charOf_toUInt8]
    exact beq_self_eq_true sign
  · refine beq_iff_eq.mpr (UInt8.toNat_inj.mp ?_)
    rw [ascii.toNat_toUInt8, ← eq_of_beq same, toNat_charOf]

/-! ### Searching -/

theorem Ascii.count_bytes {char : Char} (ascii : Ascii char) (text : List Char) :
    (Bytewise.bytes text).count char.toUInt8 = text.count char := by
  induction text with
  | nil => rfl
  | cons first rest inductionHypothesis =>
    show (String.utf8EncodeChar first ++ Bytewise.bytes rest).count char.toUInt8 = _
    rw [List.count_append, inductionHypothesis, List.count_cons, Nat.add_comm]
    congr 1
    by_cases isChar : first = char
    · subst isChar
      rw [ascii.bytes, List.count_singleton_self, if_pos (beq_self_eq_true first)]
    · rw [List.count_eq_zero.mpr fun member => isChar (ascii.mem_utf8EncodeChar.mp member),
        if_neg fun same => isChar (eq_of_beq same)]

theorem count_newlines (text : List Char) :
    (bytes text).count '\n'.toUInt8 = newlines text :=
  Ascii.count_bytes (by decide) text

theorem Ascii.idxOf?_none {char : Char} (ascii : Ascii char) {text : List Char}
    (absent : char ∉ text) : (Bytewise.bytes text).idxOf? char.toUInt8 = none :=
  List.idxOf?_eq_none_iff.mpr fun member => absent (ascii.mem_bytes.mp member)

theorem Ascii.idxOf?_some {char : Char} (ascii : Ascii char) {inside : List Char}
    (absent : char ∉ inside) (after : List Char) :
    (Bytewise.bytes (inside ++ char :: after)).idxOf? char.toUInt8 = some (size inside) := by
  have notInside : (Bytewise.bytes inside).idxOf? char.toUInt8 = none := ascii.idxOf?_none absent
  have isNext : (Bytewise.bytes (char :: after)).idxOf? char.toUInt8 = some 0 := by
    show (String.utf8EncodeChar char ++ Bytewise.bytes after).idxOf? char.toUInt8 = _
    rw [ascii.bytes, List.singleton_append, List.idxOf?_cons, if_pos (beq_self_eq_true _)]
  unfold List.idxOf? at notInside isNext ⊢
  rw [bytes_append, List.findIdx?_append, notInside, isNext]
  show some (0 + size inside) = _
  rw [Nat.zero_add]

theorem find?_apart {first : UInt8} {apart : List UInt8} (absent : first ∉ apart)
    (others rest : List UInt8) : find? (first :: others) (apart ++ rest) =
      (find? (first :: others) rest).map (· + apart.length) := by
  induction apart with
  | nil => exact Option.map_id'.symm
  | cons byte apart inductionHypothesis =>
    have isOther : first ≠ byte := List.ne_of_not_mem_cons absent
    have absent : first ∉ apart := List.not_mem_of_not_mem_cons absent
    have notPrefix : (first :: others).isPrefixOf (byte :: (apart ++ rest)) = false := by
      rw [List.isPrefixOf, beq_false_of_ne isOther, Bool.false_and]
    rw [List.cons_append, find?, notPrefix, inductionHypothesis absent, Option.map_map]
    rfl

/-- No closing sign begins in `inside`, so it is looked for behind that. -/
theorem find?_append {inside after : List Char}
    (unclosed : ¬closingSign <:+: inside ++ after.take 1) :
    find? ['*'.toUInt8, '/'.toUInt8] (bytes (inside ++ after)) =
      (find? ['*'.toUInt8, '/'.toUInt8] (bytes after)).map (· + size inside) := by
  induction inside with
  | nil => exact Option.map_id'.symm
  | cons first inside inductionHypothesis =>
    have later := inductionHypothesis fun isInfix => unclosed (List.infix_cons isInfix)
    show find? _ (String.utf8EncodeChar first ++ bytes (inside ++ after)) = _
    -- a byte of the sign is no part of another character, so only a star asks for a look behind it
    by_cases isStar : first = '*'
    · subst isStar
      have notPrefix : ¬['*'.toUInt8, '/'.toUInt8] <+: '*'.toUInt8 :: bytes (inside ++ after) := by
        rintro ⟨others, isBytes⟩
        obtain ⟨rest, isText⟩ := Ascii.eq_cons (by decide) (List.cons.inj isBytes).2.symm
        cases inside with
        | nil => exact unclosed ⟨[], [], by rw [List.nil_append] at isText; rw [isText]; rfl⟩
        | cons second inside =>
          obtain rfl := (List.cons.inj isText).1
          exact unclosed ⟨[], inside ++ after.take 1, rfl⟩
      rw [Ascii.bytes (by decide), List.singleton_append, find?,
        if_neg fun isPrefix => notPrefix (List.isPrefixOf_iff_prefix.mp isPrefix), later,
        Option.map_map, size_cons, Nat.add_comm _ (size inside)]
      rfl
    · rw [find?_apart fun member => isStar ((Ascii.mem_utf8EncodeChar (by decide)).mp member),
        later, Option.map_map, size_cons, String.length_utf8EncodeChar]
      refine congrArg (Option.map · _) (funext fun length => ?_)
      show length + size inside + first.utf8Size = length + (first.utf8Size + size inside)
      omega

theorem find?_closed {inside : List Char} (unclosed : ¬closingSign <:+: inside)
    (after : List Char) :
    find? ['*'.toUInt8, '/'.toUInt8] (bytes (inside ++ (closingSign ++ after))) =
      some (size inside) := by
  have notInside : ¬closingSign <:+: inside ++ ['*'] := by
    intro isInfix
    rcases List.infix_concat_iff.mp isInfix with isSuffix | isInfix
    · rcases List.suffix_concat_iff.mp isSuffix with isNil | ⟨front, isFront, _⟩
      · cases isNil
      · exact absurd (congrArg List.getLast? isFront) (by simp [closingSign])
    · exact unclosed isInfix
  rw [find?_append notInside]
  show some (0 + size inside) = _
  rw [Nat.zero_add]

theorem find?_open {text : List Char} (unclosed : ¬closingSign <:+: text) :
    find? ['*'.toUInt8, '/'.toUInt8] (bytes text) = none := by
  rw [← List.append_nil text] at unclosed ⊢
  exact find?_append unclosed

/-! ### Places -/

theorem behind?_size (before rest : List Char) :
    behind? (size before) (before ++ rest) = some rest := by
  induction before with
  | nil => cases rest <;> rfl
  | cons first before inductionHypothesis =>
    have positive := first.utf8Size_pos
    cases isSize : size (first :: before) with
    | zero =>
      rw [size_cons] at isSize
      omega
    | succ place =>
      rw [size_cons] at isSize
      rw [List.cons_append, behind?, if_pos (by omega), ← isSize, Nat.add_sub_cancel_left]
      exact inductionHypothesis

theorem upTo?_size (inside rest : List Char) :
    upTo? (size inside) (inside ++ rest) = some inside := by
  induction inside with
  | nil => cases rest <;> rfl
  | cons first inside inductionHypothesis =>
    have positive := first.utf8Size_pos
    cases isSize : size (first :: inside) with
    | zero =>
      rw [size_cons] at isSize
      omega
    | succ place =>
      rw [size_cons] at isSize
      rw [List.cons_append, upTo?, if_pos (by omega), ← isSize, Nat.add_sub_cancel_left,
        inductionHypothesis]
      rfl

end Lox.Source.Bytewise
