import TableScript.Text.Hidden
import TableScript.Value.Literal

set_option autoImplicit false

namespace TableScript

inductive Keyword where
  | ifWord
  | elifWord
  | elseWord
  | andWord
  | orWord
  | notWord
  | trueWord
  | falseWord
deriving DecidableEq, Repr

namespace Keyword

def spelling : Keyword → String
  | .ifWord => "if"
  | .elifWord => "elif"
  | .elseWord => "else"
  | .andWord => "and"
  | .orWord => "or"
  | .notWord => "not"
  | .trueWord => "true"
  | .falseWord => "false"

def all : List Keyword :=
  [.ifWord, .elifWord, .elseWord, .andWord, .orWord, .notWord, .trueWord, .falseWord]

/--
The keyword that a word is, whatever the case of its letters. Of the letters outside ASCII only the
Kelvin sign has an ASCII letter as its lower case, and no keyword holds a `k`, so the case of ASCII
letters alone decides.
-/
def ofWord? (word : List Char) : Option Keyword :=
  all.find? fun k => k.spelling.toList == word.map Char.toLower

end Keyword

inductive Symbol where
  | plus
  | minus
  | star
  | slash
  | assign
  | equalEqual
  | notEqual
  | less
  | greater
  | lessEqual
  | greaterEqual
  | colon
  | comma
  | lparen
  | rparen
  | lbracket
  | rbracket
  | lbrace
  | rbrace
deriving DecidableEq, Repr

def Symbol.spelling : Symbol → String
  | .plus => "+"
  | .minus => "-"
  | .star => "*"
  | .slash => "/"
  | .assign => "="
  | .equalEqual => "=="
  | .notEqual => "!="
  | .less => "<"
  | .greater => ">"
  | .lessEqual => "<="
  | .greaterEqual => ">="
  | .colon => ":"
  | .comma => ","
  | .lparen => "("
  | .rparen => ")"
  | .lbracket => "["
  | .rbracket => "]"
  | .lbrace => "\x7b"
  | .rbrace => "\x7d"

inductive TokenKind where
  | identifier (name : String)
  | integer (n : Int)
  | string (s : String)
  | keyword (k : Keyword)
  | symbol (s : Symbol)
  | eof
deriving DecidableEq, Repr, Inhabited

def TokenKind.description : TokenKind → String
  | .identifier name => "identifier '" ++ name ++ "'"
  | .integer n => "integer " ++ String.ofList (Value.intChars n)
  | .string s => "string " ++ String.ofList (Text.escaped s.toList)
  | .keyword k => "'" ++ k.spelling ++ "'"
  | .symbol s => "'" ++ s.spelling ++ "'"
  | .eof => "end of input"

structure Span where
  start : Nat
  stop : Nat
  line : Nat
  column : Nat
deriving DecidableEq, Repr, Inhabited

structure Token where
  kind : TokenKind
  span : Span
deriving DecidableEq, Repr, Inhabited

def dropBytes : Nat → List Char → List Char
  | 0, cs => cs
  | _ + 1, [] => []
  | n + 1, c :: cs => dropBytes (n + 1 - c.utf8Size) cs

def takeBytes : Nat → List Char → List Char
  | 0, _ => []
  | _ + 1, [] => []
  | n + 1, c :: cs => c :: takeBytes (n + 1 - c.utf8Size) cs

def slice (source : List Char) (start stop : Nat) : List Char :=
  takeBytes (stop - start) (dropBytes start source)

def Token.lexeme (t : Token) (source : List Char) : List Char :=
  slice source t.span.start t.span.stop

end TableScript
