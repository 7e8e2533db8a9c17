/-!
# Kinds of tokens

The kinds of token that Lox source text is made of, their printed names, and the spellings that
decide the kind of punctuation, of operators and of reserved words.
-/

namespace LoxTokens

/-- A reserved word. -/
inductive Keyword where
  | andWord
  | classWord
  | elseWord
  | falseWord
  | forWord
  | funWord
  | ifWord
  | nilWord
  | orWord
  | printWord
  | returnWord
  | superWord
  | thisWord
  | trueWord
  | varWord
  | whileWord
  deriving DecidableEq

namespace Keyword

/-- Every reserved word. -/
def all : List Keyword :=
  [.andWord, .classWord, .elseWord, .falseWord, .forWord, .funWord, .ifWord, .nilWord, .orWord,
    .printWord, .returnWord, .superWord, .thisWord, .trueWord, .varWord, .whileWord]

/-- How a reserved word is written in source text. -/
def spelling : Keyword → String
  | andWord => "and"
  | classWord => "class"
  | elseWord => "else"
  | falseWord => "false"
  | forWord => "for"
  | funWord => "fun"
  | ifWord => "if"
  | nilWord => "nil"
  | orWord => "or"
  | printWord => "print"
  | returnWord => "return"
  | superWord => "super"
  | thisWord => "this"
  | trueWord => "true"
  | varWord => "var"
  | whileWord => "while"

/-- The printed name of a reserved word. -/
def name : Keyword → String
  | andWord => "AND"
  | classWord => "CLASS"
  | elseWord => "ELSE"
  | falseWord => "FALSE"
  | forWord => "FOR"
  | funWord => "FUN"
  | ifWord => "IF"
  | nilWord => "NIL"
  | orWord => "OR"
  | printWord => "PRINT"
  | returnWord => "RETURN"
  | superWord => "SUPER"
  | thisWord => "THIS"
  | trueWord => "TRUE"
  | varWord => "VAR"
  | whileWord => "WHILE"

/-- The reserved word with a given spelling; case matters. -/
def ofSpelling? (text : String) : Option Keyword := all.find? fun word => word.spelling == text

end Keyword

/-- What a token is. -/
inductive Kind where
  | leftParen
  | rightParen
  | leftBrace
  | rightBrace
  | comma
  | dot
  | minus
  | plus
  | semicolon
  | slash
  | star
  | bang
  | bangEqual
  | equal
  | equalEqual
  | greater
  | greaterEqual
  | less
  | lessEqual
  | identifier
  | string
  | number
  /-- A reserved word. -/
  | keyword (word : Keyword)
  /-- The end of the source text. -/
  | eof
  deriving DecidableEq

namespace Kind

/-- Every kind of token. -/
def all : List Kind :=
  [.leftParen, .rightParen, .leftBrace, .rightBrace, .comma, .dot, .minus, .plus, .semicolon,
    .slash, .star, .bang, .bangEqual, .equal, .equalEqual, .greater, .greaterEqual, .less,
    .lessEqual, .identifier, .string, .number] ++ Keyword.all.map .keyword ++ [.eof]

/-- The printed name of a kind. -/
def name : Kind → String
  | leftParen => "LEFT_PAREN"
  | rightParen => "RIGHT_PAREN"
  | leftBrace => "LEFT_BRACE"
  | rightBrace => "RIGHT_BRACE"
  | comma => "COMMA"
  | dot => "DOT"
  | minus => "MINUS"
  | plus => "PLUS"
  | semicolon => "SEMICOLON"
  | slash => "SLASH"
  | star => "STAR"
  | bang => "BANG"
  | bangEqual => "BANG_EQUAL"
  | equal => "EQUAL"
  | equalEqual => "EQUAL_EQUAL"
  | greater => "GREATER"
  | greaterEqual => "GREATER_EQUAL"
  | less => "LESS"
  | lessEqual => "LESS_EQUAL"
  | identifier => "IDENTIFIER"
  | string => "STRING"
  | number => "NUMBER"
  | keyword word => word.name
  | eof => "EOF"

/-- The kind of a character that is a token by itself whatever follows it. -/
def ofPunctuation? : Char → Option Kind
  | '(' => some leftParen
  | ')' => some rightParen
  | '{' => some leftBrace
  | '}' => some rightBrace
  | ',' => some comma
  | '.' => some dot
  | '-' => some minus
  | '+' => some plus
  | ';' => some semicolon
  | '/' => some slash
  | '*' => some star
  | _ => none

/-- The kinds of an operator character, without and with an equals sign after it. -/
def ofOperator? : Char → Option (Kind × Kind)
  | '!' => some (bang, bangEqual)
  | '=' => some (equal, equalEqual)
  | '<' => some (less, lessEqual)
  | '>' => some (greater, greaterEqual)
  | _ => none

/-- The kind of a word: a reserved word if it is spelled as one, else an identifier. -/
def ofWord (text : String) : Kind :=
  match Keyword.ofSpelling? text with
  | some word => keyword word
  | none => identifier

end Kind
end LoxTokens
