import TableScript.Storage.Real
import TableScript.Value.Literal

set_option autoImplicit false

namespace TableScript

inductive Cell where
  | null
  | integer (n : Int)
  | real (x : Binary64)
  | text (s : String)
deriving DecidableEq, Repr, Inhabited

namespace Cell

def wordLimit : Int := 9223372036854775808

def fitsWord (n : Int) : Bool := decide (-wordLimit ≤ n) && decide (n < wordLimit)

def ofValue? : Value → Option Cell
  | .none => some .null
  | .bool b => some (.integer b.toInt)
  | .int n => if fitsWord n then some (.integer n) else none
  | .real x => some (.real x)
  | .str s => some (.text s)
  | .list _ | .dict _ => none

def toValue : Cell → Value
  | .null => .none
  | .integer n => .int n
  | .real x => .real x
  | .text s => .str s

def number? : Cell → Option Number
  | .integer n => some (.int n)
  | .real x => some (.real x)
  | _ => none

def same : Cell → Cell → Bool
  | .text s, .text t => s == t
  | a, b =>
    match a.number?, b.number? with
    | some m, some n => m.same n
    | _, _ => false

end Cell

inductive Affinity where
  | integer
  | text
  | blob
  | real
  | numeric
deriving DecidableEq, Repr

namespace Affinity

def occursIn (word : List Char) : List Char → Bool
  | [] => word.isEmpty
  | c :: cs => word.isPrefixOf (c :: cs) || occursIn word cs

def ofType (declared : List Char) : Affinity :=
  let upper := declared.map Char.toUpper
  let mentions (word : String) : Bool := occursIn word.toList upper
  if mentions "INT" then .integer
  else if mentions "CHAR" || mentions "CLOB" || mentions "TEXT" then .text
  else if mentions "BLOB" || declared.isEmpty then .blob
  else if mentions "REAL" || mentions "FLOA" || mentions "DOUB" then .real
  else .numeric

def isSpace (c : Char) : Bool := c = ' ' || decide ('\t' ≤ c ∧ c ≤ '\r')

def trimSpace (cs : List Char) : List Char :=
  ((cs.dropWhile isSpace).reverse.dropWhile isSpace).reverse

def settleReal (x : Binary64) : Cell :=
  match x.toInt? with
  | some n => if -Cell.wordLimit < n ∧ n < Cell.wordLimit - 1 then .integer n else .real x
  | none => .real x

def settleText (s : String) : Cell :=
  match Numeral.read? (trimSpace s.toList) with
  | none => .text s
  | some n =>
    if n.isPlain && Cell.fitsWord n.wholeValue then .integer n.wholeValue
    else settleReal (StoredReal.read n)

def toNumeric : Cell → Cell
  | .real x => settleReal x
  | .text s => settleText s
  | c => c

def toReal (c : Cell) : Cell :=
  match toNumeric c with
  | .integer n => .real (Binary64.ofInt n)
  | settled => settled

def toText : Cell → Cell
  | .integer n => .text (String.ofList (Value.intChars n))
  | .real x => .text (String.ofList (StoredReal.write x))
  | c => c

def store (a : Affinity) (c : Cell) : Cell :=
  if c = .real .nan then .null
  else
    match a with
    | .integer | .numeric => toNumeric c
    | .real => toReal c
    | .text => toText c
    | .blob => c

end Affinity

end TableScript
