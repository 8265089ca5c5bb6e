/-
Tokens. A mark is a token of one fixed spelling, a punctuation sign or a reserved word; the other
tokens are names, literals with what they denote, and the end of the source. Two literals are tokens
of one kind whatever they denote, so a reader asks for a mark or takes a literal apart.
-/

import Lox.Number.Text

namespace Lox

/-! ### Marks -/

/-- A token with one fixed spelling. -/
inductive Mark where
  | leftParen | rightParen | leftBrace | rightBrace
  | comma | dot | minus | plus | semicolon | slash | star
  | bang | bangEqual | equal | equalEqual | greater | greaterEqual | less | lessEqual
  | andWord | breakWord | classWord | continueWord | elseWord | falseWord | funWord | forWord
  | ifWord | nilWord | orWord | printWord | returnWord | superWord | thisWord | trueWord
  | varWord | whileWord
deriving Repr, DecidableEq

/-- The characters of a mark in the source. -/
def Mark.spelling : Mark → String
  | .leftParen => "(" | .rightParen => ")" | .leftBrace => "\x7b" | .rightBrace => "\x7d"
  | .comma => "," | .dot => "." | .minus => "-" | .plus => "+" | .semicolon => ";"
  | .slash => "/" | .star => "*"
  | .bang => "!" | .bangEqual => "!=" | .equal => "=" | .equalEqual => "=="
  | .greater => ">" | .greaterEqual => ">=" | .less => "<" | .lessEqual => "<="
  | .andWord => "and" | .breakWord => "break" | .classWord => "class"
  | .continueWord => "continue" | .elseWord => "else" | .falseWord => "false"
  | .funWord => "fun" | .forWord => "for" | .ifWord => "if" | .nilWord => "nil"
  | .orWord => "or" | .printWord => "print" | .returnWord => "return" | .superWord => "super"
  | .thisWord => "this" | .trueWord => "true" | .varWord => "var" | .whileWord => "while"

/-- The name of a mark in a token listing. -/
def Mark.label : Mark → String
  | .leftParen => "LEFT_PAREN" | .rightParen => "RIGHT_PAREN"
  | .leftBrace => "LEFT_BRACE" | .rightBrace => "RIGHT_BRACE"
  | .comma => "COMMA" | .dot => "DOT" | .minus => "MINUS" | .plus => "PLUS"
  | .semicolon => "SEMICOLON" | .slash => "SLASH" | .star => "STAR"
  | .bang => "BANG" | .bangEqual => "BANG_EQUAL" | .equal => "EQUAL"
  | .equalEqual => "EQUAL_EQUAL" | .greater => "GREATER" | .greaterEqual => "GREATER_EQUAL"
  | .less => "LESS" | .lessEqual => "LESS_EQUAL"
  | .andWord => "AND" | .breakWord => "BREAK" | .classWord => "CLASS"
  | .continueWord => "CONTINUE" | .elseWord => "ELSE" | .falseWord => "FALSE"
  | .funWord => "FUN" | .forWord => "FOR" | .ifWord => "IF" | .nilWord => "NIL"
  | .orWord => "OR" | .printWord => "PRINT" | .returnWord => "RETURN" | .superWord => "SUPER"
  | .thisWord => "THIS" | .trueWord => "TRUE" | .varWord => "VAR" | .whileWord => "WHILE"

/-- The marks that are spelled like names. -/
def Mark.reserved : List Mark :=
  [.andWord, .breakWord, .classWord, .continueWord, .elseWord, .falseWord, .funWord, .forWord,
    .ifWord, .nilWord, .orWord, .printWord, .returnWord, .superWord, .thisWord, .trueWord,
    .varWord, .whileWord]

/-- The reserved word with the given spelling. -/
def Mark.reserved? (word : String) : Option Mark :=
  reserved.find? fun mark => mark.spelling == word

/-! ### Tokens -/

/-- What a token is; a literal carries what it denotes. -/
inductive TokenKind where
  | mark (mark : Mark)
  | identifier
  | string (contents : String)
  | number (value : Float)
  | endOfInput
deriving Repr

/-- The name of a kind in a token listing. -/
def TokenKind.label : TokenKind → String
  | .mark sign => sign.label
  | .identifier => "IDENTIFIER"
  | .string _ => "STRING"
  | .number _ => "NUMBER"
  | .endOfInput => "EOF"

/-- A token with its spelling and the line on which it ends. -/
structure Token where
  kind : TokenKind
  lexeme : String
  line : Nat
deriving Repr

/-- Whether the token is the given mark. -/
def Token.isMark (token : Token) (mark : Mark) : Bool :=
  match token.kind with
  | .mark other => other == mark
  | _ => false

/-- Whether the token is a name. -/
def Token.isIdentifier (token : Token) : Bool :=
  match token.kind with
  | .identifier => true
  | _ => false

/-- Whether the token ends the source. -/
def Token.isEnd (token : Token) : Bool :=
  match token.kind with
  | .endOfInput => true
  | _ => false

/-- How an error message points at the token. -/
def Token.location (token : Token) : String :=
  if token.isEnd then " at end" else " at '" ++ token.lexeme ++ "'"

/-- What a token listing writes for the value of a token. -/
def TokenKind.literalText : TokenKind → String
  | .string contents => contents
  | .number value => Number.tokenText value
  | _ => "null"

/-- The line of a token listing that shows the token. -/
def Token.listing (token : Token) : String :=
  token.kind.label ++ " " ++ token.lexeme ++ " " ++ token.kind.literalText

/-- A name, or a word that stands for one, with the line on which it stands. -/
structure Identifier where
  name : String
  line : Nat
deriving Repr, DecidableEq

/-- The name that a token spells. -/
def Token.toIdentifier (token : Token) : Identifier :=
  ⟨token.lexeme, token.line⟩

end Lox
