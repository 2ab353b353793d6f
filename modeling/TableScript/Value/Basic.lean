import TableScript.Dict

set_option autoImplicit false

namespace TableScript

inductive Value where
  | none
  | bool (b : Bool)
  | int (n : Int)
  | real (x : Binary64)
  | str (s : String)
  | list (items : List Value)
  | dict (d : Dict Value)
deriving Inhabited

inductive ValueType where
  | none
  | bool
  | int
  | real
  | str
  | list
  | dict
deriving DecidableEq, Repr

def ValueType.name : ValueType → String
  | .none => "NoneType"
  | .bool => "bool"
  | .int => "int"
  | .real => "float"
  | .str => "str"
  | .list => "list"
  | .dict => "dict"

namespace Value

def type : Value → ValueType
  | .none => .none
  | .bool _ => .bool
  | .int _ => .int
  | .real _ => .real
  | .str _ => .str
  | .list _ => .list
  | .dict _ => .dict

def isNone : Value → Bool
  | .none => true
  | _ => false

def isTruthy : Value → Bool
  | .none => false
  | .bool b => b
  | .int n => n != 0
  | .real x => !x.isZero
  | .str s => !s.isEmpty
  | .list items => !items.isEmpty
  | .dict d => !d.isEmpty

def text? : Value → Option String
  | .str s => some s
  | _ => Option.none

def number? : Value → Option Number
  | .bool b => some (.int b.toInt)
  | .int n => some (.int n)
  | .real x => some (.real x)
  | _ => Option.none

def count? : Value → Option Int
  | .bool b => some b.toInt
  | .int n => some n
  | _ => Option.none

def ofNumber : Number → Value
  | .int n => .int n
  | .real x => .real x

def key? : Value → Option Key
  | .bool b => some (.bool b)
  | .int n => some (.int n)
  | .real x => some (.real x)
  | .str s => some (.str s)
  | _ => Option.none

def ofKey : Key → Value
  | .bool b => .bool b
  | .int n => .int n
  | .real x => .real x
  | .str s => .str s

@[simp] theorem key?_ofKey (k : Key) : (ofKey k).key? = some k := by
  cases k <;> rfl

theorem ofKey_of_key? (v : Value) (k : Key) (h : v.key? = some k) : ofKey k = v := by
  cases v <;> simp_all [key?] <;> subst h <;> rfl

end Value

end TableScript
