set_option autoImplicit false

namespace TableScript

inductive BinaryOperator where
  | add
  | sub
  | mul
  | div
  | and
  | or
  | equal
  | notEqual
  | less
  | greater
  | lessEqual
  | greaterEqual
deriving DecidableEq, Repr

namespace BinaryOperator

def symbol : BinaryOperator → String
  | .add => "+"
  | .sub => "-"
  | .mul => "*"
  | .div => "/"
  | .and => "and"
  | .or => "or"
  | .equal => "=="
  | .notEqual => "!="
  | .less => "<"
  | .greater => ">"
  | .lessEqual => "<="
  | .greaterEqual => ">="

def all : List BinaryOperator :=
  [.add, .sub, .mul, .div, .and, .or, .equal, .notEqual, .less, .greater, .lessEqual, .greaterEqual]

def ofSymbol? (s : String) : Option BinaryOperator := all.find? fun op => op.symbol == s

end BinaryOperator

inductive UnaryOperator where
  | plus
  | minus
  | not
deriving DecidableEq, Repr

namespace UnaryOperator

def symbol : UnaryOperator → String
  | .plus => "+"
  | .minus => "-"
  | .not => "not"

def ofSymbol? (s : String) : Option UnaryOperator :=
  [UnaryOperator.plus, .minus, .not].find? fun op => op.symbol == s

end UnaryOperator

inductive Expr where
  | int (n : Int)
  | str (s : String)
  | bool (b : Bool)
  | dict (entries : List (Expr × Expr))
  | binary (op : BinaryOperator) (left right : Expr)
  | unary (op : UnaryOperator) (operand : Expr)
  | var (name : String)
  | assign (target : String) (value : Expr)
  | call (function : String) (args : List Expr)
  | index (container position : Expr)
deriving Inhabited

inductive Stmt where
  | expr (e : Expr)
  | conditional (condition : Expr) (body : List Stmt) (elifs : List (Expr × List Stmt))
      (otherwise : Option (List Stmt))
deriving Inhabited

abbrev Program := List Stmt

inductive Tier where
  | logical
  | comparison
  | additive
  | multiplicative
deriving DecidableEq, Repr

def Tier.ofOperator : BinaryOperator → Tier
  | .and | .or => .logical
  | .equal | .notEqual | .less | .greater | .lessEqual | .greaterEqual => .comparison
  | .add | .sub => .additive
  | .mul | .div => .multiplicative

end TableScript
