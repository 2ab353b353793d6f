import TableScript.Session.Call
import TableScript.Syntax.Parser
import TableScript.Value.Document
import TableScript.Value.Operation

set_option autoImplicit false

namespace TableScript

variable {E : Engine}

namespace Expr

def lookUp (name : String) : Run E Value := do
  match (← get).environment.get? name with
  | some v => pure v
  | none => throw (.undefinedVariable name)

def bindTo (name : String) (v : Value) : Run E Unit :=
  modify fun s => { s with environment := s.environment.set name v }

mutual

/--
The value of an expression. An assignment that is the right side of another one passes its value on;
any other assignment has no value.
-/
def evalIn (settings : Settings) (passOn : Bool) : Expr → Run E Value
  | .int n => pure (.int n)
  | .str s => pure (Value.ofLiteral s)
  | .bool b => pure (.bool b)
  | .dict entries => do
    let d ← evalEntries settings Dict.empty entries
    return .dict d
  | .binary op left right => do
    let v ← evalIn settings false left
    let w ← evalIn settings false right
    Run.ofOperator (Value.binary op v w)
  | .unary op operand => do
    let v ← evalIn settings false operand
    Run.ofOperator (Value.unary op v)
  | .var name => lookUp name
  | .assign target value => do
    let v ← evalIn settings true value
    bindTo target v
    return if passOn then v else .none
  | .call function args =>
    match Builtin.ofName? function with
    | none => throw (.undefinedFunction function)
    | some b => do
      let vs ← evalAll settings args
      b.call settings vs
      return .none
  | .index container position => do
    let v ← evalIn settings false container
    let i ← evalIn settings false position
    Run.ofIndex (Value.subscript v i)

def evalAll (settings : Settings) : List Expr → Run E (List Value)
  | [] => pure []
  | e :: rest => do
    let v ← evalIn settings false e
    let vs ← evalAll settings rest
    return v :: vs

def evalEntries (settings : Settings) (d : Dict Value) : List (Expr × Expr) → Run E (Dict Value)
  | [] => pure d
  | (key, value) :: rest => do
    let k ← evalIn settings false key
    let v ← evalIn settings false value
    let grown ← Run.ofOperator (Value.insertEntry d k v)
    evalEntries settings grown rest

end

def eval (settings : Settings) (e : Expr) : Run E Value := evalIn settings false e

end Expr

namespace Stmt

mutual

def run (settings : Settings) : Stmt → Run E Unit
  | .expr e => do
    let _ ← e.eval settings
  | .conditional condition body elifs otherwise => do
    let v ← condition.eval settings
    if v.isTruthy then runAll settings body
    else runElifs settings elifs (runOtherwise settings otherwise)

def runAll (settings : Settings) : List Stmt → Run E Unit
  | [] => pure ()
  | s :: rest => do
    run settings s
    runAll settings rest

def runElifs (settings : Settings) : List (Expr × List Stmt) → Run E Unit → Run E Unit
  | [], lastResort => lastResort
  | (condition, body) :: rest, lastResort => do
    let v ← condition.eval settings
    if v.isTruthy then runAll settings body else runElifs settings rest lastResort

def runOtherwise (settings : Settings) : Option (List Stmt) → Run E Unit
  | none => pure ()
  | some body => runAll settings body

end

end Stmt

namespace Session

def run (s : Session E) (settings : Settings) (program : Program) :
    Except EvalError Unit × Session E :=
  (Stmt.runAll settings program).run.run s

def runSource (s : Session E) (settings : Settings) (source : String) :
    Except RunError Unit × Session E :=
  match Program.parse source with
  | .error e => (.error (.parsing e), s)
  | .ok program =>
    match s.run settings program with
    | (.ok (), after) => (.ok (), after)
    | (.error e, after) => (.error (.evaluation e), after)

end Session

end TableScript
