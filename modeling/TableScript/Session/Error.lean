import TableScript.Service.Endpoint
import TableScript.Storage.Engine
import TableScript.Syntax.Input
import TableScript.Value.Operation

set_option autoImplicit false

namespace TableScript

inductive Builtin where
  | print
  | connectDb
  | createApi
  | dbCreateTable
  | dbInsert
  | dbQuery
deriving DecidableEq, Repr

inductive Arity where
  | exactly (n : Nat)
  | variadic
deriving DecidableEq, Repr

def Arity.accepts : Arity → Nat → Bool
  | .exactly n, count => n == count
  | .variadic, _ => true

namespace Builtin

def name : Builtin → String
  | .print => "print"
  | .connectDb => "connect_db"
  | .createApi => "create_api"
  | .dbCreateTable => "db_create_table"
  | .dbInsert => "db_insert"
  | .dbQuery => "db_query"

def all : List Builtin := [.print, .connectDb, .createApi, .dbCreateTable, .dbInsert, .dbQuery]

def ofName? (name : String) : Option Builtin := all.find? fun b => b.name == name

theorem ofName?_name (b : Builtin) : ofName? b.name = some b := by
  cases b <;> decide

def arity : Builtin → Arity
  | .print => .variadic
  | .connectDb | .createApi | .dbQuery => .exactly 1
  | .dbCreateTable | .dbInsert => .exactly 2

end Builtin

inductive EvalError where
  | undefinedVariable (name : String)
  | undefinedFunction (name : String)
  | operator (e : OperatorError)
  | arityMismatch (function : Builtin) (expected found : Nat)
  | invalidArgument (function : Builtin) (argument expected : String) (got : ValueType)
  | index (fault : IndexFault)
  | noDatabase (function : Builtin)
  | storage (e : StorageError)
  | cannotBind (endpoint : Endpoint) (e : OsError)
deriving DecidableEq, Repr

inductive RunError where
  | parsing (e : SyntaxError)
  | evaluation (e : EvalError)
deriving DecidableEq, Repr

inductive ErrorKind where
  | lexical
  | syntactic
  | type
  | name
  | index
  | runtime
deriving DecidableEq, Repr

def ErrorKind.label : ErrorKind → String
  | .lexical => "lexical"
  | .syntactic => "syntax"
  | .type => "type"
  | .name => "name"
  | .index => "index"
  | .runtime => "runtime"

namespace OperatorError

def kind : OperatorError → ErrorKind
  | .unsupportedOperands _ _ _ | .unsupportedOperand _ _ | .unhashableKey _ => .type
  | .divisionByZero | .intTooLarge | .repeatTooLarge _ => .runtime

end OperatorError

namespace EvalError

def kind : EvalError → ErrorKind
  | .undefinedVariable _ | .undefinedFunction _ => .name
  | .operator e => e.kind
  | .arityMismatch _ _ _ | .invalidArgument _ _ _ _ => .type
  | .index _ => .index
  | .noDatabase _ | .storage _ | .cannotBind _ _ => .runtime

def message : EvalError → String
  | .undefinedVariable name => "Undefined variable '" ++ name ++ "'"
  | .undefinedFunction name => "Undefined function '" ++ name ++ "'"
  | .operator e => e.message
  | .arityMismatch function expected found =>
    "Function '" ++ function.name ++ s!"' expected {expected} arguments, got {found}"
  | .invalidArgument function argument expected got =>
    "Invalid argument type for '" ++ function.name ++ "': '" ++ argument ++ "' expected " ++
      expected ++ ", got " ++ got.name
  | .index fault => "Error accessing element: " ++ fault.message
  | .noDatabase function => "'" ++ function.name ++ "' requires a database; call connect_db first"
  | .storage e => e.message
  | .cannotBind endpoint e => "Could not bind API to " ++ endpoint.text ++ ": " ++ e.message

end EvalError

namespace SyntaxError

def kind : SyntaxError → ErrorKind
  | .lexical _ => .lexical
  | _ => .syntactic

end SyntaxError

namespace RunError

def kind : RunError → ErrorKind
  | .parsing e => e.kind
  | .evaluation e => e.kind

def message : RunError → String
  | .parsing e => e.message
  | .evaluation e => e.message

end RunError

end TableScript
