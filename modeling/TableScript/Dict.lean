import Std.Data.HashMap
import TableScript.Number

set_option autoImplicit false

namespace TableScript

inductive Key where
  | bool (b : Bool)
  | int (n : Int)
  | real (x : Binary64)
  | str (s : String)
deriving DecidableEq, Repr

namespace Key

def number? : Key → Option Number
  | .bool b => some (.int b.toInt)
  | .int n => some (.int n)
  | .real x => some (.real x)
  | .str _ => none

def same : Key → Key → Bool
  | .str s, .str t => s == t
  | k, l =>
    match k.number?, l.number? with
    | some a, some b => a.same b
    | _, _ => false

inductive Code where
  | whole (n : Int)
  | real (negative infinite : Bool) (rank : Nat)
  | text (s : String)
deriving DecidableEq, Hashable, Repr

def realCode : Binary64 → Code
  | .nan => .real false false 0
  | .infinite s => .real s true 0
  | .finite s r => .real s false r.val

def code : Key → Code
  | .bool b => .whole b.toInt
  | .int n => .whole n
  | .real x =>
    match x.toInt? with
    | some n => .whole n
    | none => realCode x
  | .str s => .text s

def hash [Hashable Code] (k : Key) : UInt64 := Hashable.hash k.code

end Key

structure Dict (α : Type) where
  entries : List (Key × α)
  buckets : Std.HashMap UInt64 (List Nat)

namespace Dict

variable {α : Type}

def empty : Dict α := ⟨[], {}⟩

instance : Inhabited (Dict α) := ⟨empty⟩

def size (d : Dict α) : Nat := d.entries.length

def isEmpty (d : Dict α) : Bool := d.entries.isEmpty

def holdsAt (d : Dict α) (k : Key) (i : Nat) : Bool :=
  match d.entries[i]? with
  | some entry => entry.1.same k
  | none => false

def position? [Hashable Key.Code] (d : Dict α) (k : Key) : Option Nat :=
  (d.buckets.getD k.hash []).find? (d.holdsAt k)

def find? [Hashable Key.Code] (d : Dict α) (k : Key) : Option α :=
  match d.position? k with
  | some i => d.entries[i]?.map (·.2)
  | none => none

def insert [Hashable Key.Code] (d : Dict α) (k : Key) (v : α) : Dict α :=
  match d.position? k with
  | some i => { d with entries := d.entries.modify i fun entry => (entry.1, v) }
  | none =>
    { entries := d.entries ++ [(k, v)]
      buckets := d.buckets.insert k.hash (d.buckets.getD k.hash [] ++ [d.entries.length]) }

def ofEntries [Hashable Key.Code] (entries : List (Key × α)) : Dict α :=
  entries.foldl (fun d entry => d.insert entry.1 entry.2) empty

end Dict

end TableScript
