import TableScript.Number
import TableScript.Syntax.Basic
import TableScript.Text.Basic
import TableScript.Value.Comparison
import TableScript.Value.Literal

set_option autoImplicit false

namespace TableScript

inductive OperatorError where
  | unsupportedOperands (op : BinaryOperator) (left right : ValueType)
  | unsupportedOperand (op : UnaryOperator) (operand : ValueType)
  | unhashableKey (type : ValueType)
  | divisionByZero
  | intTooLarge
  | repeatTooLarge (limit : Nat)
deriving DecidableEq, Repr

namespace OperatorError

def message : OperatorError → String
  | .unsupportedOperands op left right =>
    "Unsupported operand types for '" ++ op.symbol ++ "': " ++ left.name ++ " and " ++ right.name
  | .unsupportedOperand op operand =>
    "Bad operand type for unary '" ++ op.symbol ++ "': " ++ operand.name
  | .unhashableKey type => "Dictionary keys must be hashable, got " ++ type.name
  | .divisionByZero => "Division by zero"
  | .intTooLarge => "Integer too large to convert to float"
  | .repeatTooLarge limit => s!"Repeated sequence would exceed {limit} elements"

end OperatorError

inductive IndexFault where
  | missingKey (key : Key)
  | outOfRange (container : ValueType) (index : Int) (length : Nat)
  | invalidIndexType (container index : ValueType)
  | notSubscriptable (type : ValueType)
deriving DecidableEq, Repr

namespace IndexFault

def message : IndexFault → String
  | .missingKey key => "key " ++ String.ofList (Value.keyChars key) ++ " not found"
  | .outOfRange container index length =>
    container.name ++ " index " ++ String.ofList (Value.intChars index) ++
      s!" out of range for length {length}"
  | .invalidIndexType container index =>
    container.name ++ " cannot be indexed by " ++ index.name
  | .notSubscriptable type => "'" ++ type.name ++ "' object is not subscriptable"

end IndexFault

namespace Value

def repeatLimit : Nat := Nat.pow 2 30

def withinLimit (length copies : Nat) : Bool := (Word.product? length copies).any (· ≤ repeatLimit)

def copies (length : Nat) (n : Int) : Except OperatorError Nat :=
  if n < 0 ∨ length = 0 then .ok 0
  else
    match (Word.ofInt? n).filter (withinLimit length) with
    | some k => .ok k
    | Option.none => .error (.repeatTooLarge repeatLimit)

def repeatText (s : String) (n : Int) : Except OperatorError Value :=
  (copies s.utf8ByteSize n).map fun k => .str (Text.repeated s k)

def repeatItems (items : List Value) (n : Int) : Except OperatorError Value :=
  (copies items.length n).map fun k => .list (List.replicate k items).flatten

def unsupported (op : BinaryOperator) (v w : Value) : Except OperatorError Value :=
  .error (.unsupportedOperands op v.type w.type)

def toReal (a : Number) : Except OperatorError Binary64 :=
  match a.toBinary64? with
  | some x => .ok x
  | Option.none => .error .intTooLarge

def arithmetic (op : BinaryOperator) (onInts : Int → Int → Int)
    (onReals : Binary64 → Binary64 → Binary64) (v w : Value) : Except OperatorError Value :=
  match v.number?, w.number? with
  | some (.int m), some (.int n) => .ok (.int (onInts m n))
  | some a, some b => do
    let x ← toReal a
    let y ← toReal b
    return .real (onReals x y)
  | _, _ => unsupported op v w

def add : Value → Value → Except OperatorError Value
  | .str s, .str t => .ok (.str (s ++ t))
  | .list xs, .list ys => .ok (.list (xs ++ ys))
  | v, w => arithmetic .add (· + ·) Binary64.add v w

def sub (v w : Value) : Except OperatorError Value :=
  arithmetic .sub (· - ·) Binary64.sub v w

def mul (v w : Value) : Except OperatorError Value :=
  match v, w with
  | .str s, count | count, .str s =>
    match count.count? with
    | some n => repeatText s n
    | Option.none => unsupported .mul v w
  | .list items, count | count, .list items =>
    match count.count? with
    | some n => repeatItems items n
    | Option.none => unsupported .mul v w
  | _, _ => arithmetic .mul (· * ·) Binary64.mul v w

def div (v w : Value) : Except OperatorError Value :=
  match v.number?, w.number? with
  | some a, some b =>
    if b.isZero then .error .divisionByZero
    else do
      let x ← toReal a
      let y ← toReal b
      return .real (x.div y)
  | _, _ => unsupported .div v w

def ordering (op : BinaryOperator) (holds : Ordering → Bool) (v w : Value) :
    Except OperatorError Value :=
  match compare v w with
  | .ordered o => .ok (.bool (holds o))
  | .unordered => .ok (.bool false)
  | .incomparable => unsupported op v w

def binary (op : BinaryOperator) (v w : Value) : Except OperatorError Value :=
  match op with
  | .add => add v w
  | .sub => sub v w
  | .mul => mul v w
  | .div => div v w
  | .and => .ok (if v.isTruthy then w else v)
  | .or => .ok (if v.isTruthy then v else w)
  | .equal => .ok (.bool (equal v w))
  | .notEqual => .ok (.bool !(equal v w))
  | .less => ordering .less Ordering.isLT v w
  | .greater => ordering .greater Ordering.isGT v w
  | .lessEqual => ordering .lessEqual Ordering.isLE v w
  | .greaterEqual => ordering .greaterEqual Ordering.isGE v w

def unary (op : UnaryOperator) (v : Value) : Except OperatorError Value :=
  match op, v.number? with
  | .not, _ => .ok (.bool !v.isTruthy)
  | .plus, some a => .ok (ofNumber a)
  | .minus, some a => .ok (ofNumber a.neg)
  | _, Option.none => .error (.unsupportedOperand op v.type)

end Value

namespace Value

def position? (length : Nat) (i : Int) : Option (Fin length) :=
  let resolved := if i < 0 then i + length else i
  if h : 0 ≤ resolved ∧ resolved < length then some ⟨resolved.toNat, by omega⟩ else Option.none

def position (container : ValueType) (length : Nat) (index : Value) : Except IndexFault (Fin length) :=
  match index.count? with
  | Option.none => .error (.invalidIndexType container index.type)
  | some i =>
    match position? length i with
    | some p => .ok p
    | Option.none => .error (.outOfRange container i length)

def character (s : String) (p : Nat) : Value :=
  match s.toList[p]? with
  | some c => .str (String.singleton c)
  | Option.none => .none

def subscript (container index : Value) : Except IndexFault Value :=
  match container with
  | .dict d =>
    match index.key? with
    | Option.none => .error (.invalidIndexType .dict index.type)
    | some k =>
      match d.find? k with
      | some v => .ok v
      | Option.none => .error (.missingKey k)
  | .list items => (position .list items.length index).map items.get
  | .str s => (position .str s.length index).map fun p => character s p.val
  | _ => .error (.notSubscriptable container.type)

def insertEntry [Hashable Key.Code] (d : Dict Value) (key value : Value) :
    Except OperatorError (Dict Value) :=
  match key.key? with
  | some k => .ok (d.insert k value)
  | Option.none => .error (.unhashableKey key.type)

def findEntry [Hashable Key.Code] (d : Dict Value) (key : Value) : Except OperatorError (Option Value) :=
  match key.key? with
  | some k => .ok (d.find? k)
  | Option.none => .error (.unhashableKey key.type)

end Value

end TableScript
