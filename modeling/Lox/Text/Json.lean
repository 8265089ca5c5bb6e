/-
JSON values and their indented text. Members of arrays and objects stand on lines of their own, two
blanks further in than what holds them.
-/

namespace Lox.Text

/-- A JSON value. The members of an object keep their order. -/
inductive Json where
  /-- A number, or a word such as `null`, in the characters that are to be written. -/
  | plain (text : String)
  | string (contents : String)
  | array (elements : List Json)
  | object (members : List (String × Json))

namespace Json

/-- Four hexadecimal digits. -/
def fourDigits (number : Nat) : List Char :=
  let digits := Nat.toDigits 16 number
  List.replicate (4 - digits.length) '0' ++ digits

/-- A character inside a string. Quotes, backslashes and control characters are escaped, with a
letter where there is one; everything else stands for itself. -/
def escape (char : Char) : List Char :=
  if char = '"' then ['\\', '"']
  else if char = '\\' then ['\\', '\\']
  else if char = '\n' then ['\\', 'n']
  else if char = '\r' then ['\\', 'r']
  else if char = '\t' then ['\\', 't']
  else if char = '\x08' then ['\\', 'b']
  else if char = '\x0c' then ['\\', 'f']
  else if char.toNat < 0x20 then '\\' :: 'u' :: fourDigits char.toNat
  else [char]

/-- A string in quotes. -/
def quoted (text : String) : List Char :=
  '"' :: text.toList.flatMap escape ++ ['"']

/-- The start of a line that is `depth` levels further in. -/
def newLine (depth : Nat) : List Char :=
  '\n' :: List.replicate (2 * depth) ' '

mutual

/-- The characters of a value whose first line is `depth` levels in. -/
def characters (depth : Nat) : Json → List Char
  | .plain text => text.toList
  | .string contents => quoted contents
  | .array [] => ['[', ']']
  | .array (first :: others) =>
    '[' :: newLine (depth + 1) ++ characters (depth + 1) first ++
      elementCharacters (depth + 1) others ++ newLine depth ++ [']']
  | .object [] => ['\x7b', '\x7d']
  | .object ((name, value) :: others) =>
    '\x7b' :: newLine (depth + 1) ++ quoted name ++ [':', ' '] ++ characters (depth + 1) value ++
      memberCharacters (depth + 1) others ++ newLine depth ++ ['\x7d']

/-- The elements of an array behind its first one. -/
def elementCharacters (depth : Nat) : List Json → List Char
  | [] => []
  | element :: others =>
    ',' :: newLine depth ++ characters depth element ++ elementCharacters depth others

/-- The members of an object behind its first one. -/
def memberCharacters (depth : Nat) : List (String × Json) → List Char
  | [] => []
  | (name, value) :: others =>
    ',' :: newLine depth ++ quoted name ++ [':', ' '] ++ characters depth value ++
      memberCharacters depth others

end

/-- The indented text of a value. -/
def text (json : Json) : String :=
  String.ofList (json.characters 0)

end Json

end Lox.Text
