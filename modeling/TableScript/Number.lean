import TableScript.Binary64.Basic

set_option autoImplicit false

namespace TableScript

inductive Number where
  | int (n : Int)
  | real (x : Binary64)
deriving DecidableEq, Repr

namespace Number

def compareToReal? (n : Int) : Binary64 → Option Ordering
  | .nan => none
  | .infinite negative => some (if negative then .gt else .lt)
  | .finite s r =>
    match Ord.compare n (Binary64.floor s r) with
    | .eq => some (if r.units % unitsPerOne = 0 then .eq else .lt)
    | order => some order

def compare? : Number → Number → Option Ordering
  | .int m, .int n => some (Ord.compare m n)
  | .int m, .real y => compareToReal? m y
  | .real x, .int n => (compareToReal? n x).map Ordering.swap
  | .real x, .real y => x.compare? y

def same (a b : Number) : Bool := a.compare? b == some .eq

def isZero : Number → Bool
  | .int n => n == 0
  | .real x => x.isZero

def toBinary64? : Number → Option Binary64
  | .int n => let x := Binary64.ofInt n; if x.isFinite then some x else none
  | .real x => some x

def neg : Number → Number
  | .int n => .int (-n)
  | .real x => .real x.neg

end Number

namespace Word

def bound : Nat := Nat.pow 2 64

def ofInt? (n : Int) : Option Nat := if 0 ≤ n ∧ n < bound then some n.toNat else none

def product? (a b : Nat) : Option Nat := if a * b < bound then some (a * b) else none

theorem ofInt?_eq_some_iff (n : Int) (k : Nat) : ofInt? n = some k ↔ n = k ∧ k < bound := by
  unfold ofInt?
  split
  next inside =>
    rw [Option.some.injEq]
    omega
  next outside =>
    simp only [reduceCtorEq, false_iff]
    omega

theorem product?_eq_some_iff (a b p : Nat) : product? a b = some p ↔ p = a * b ∧ a * b < bound := by
  unfold product?
  split
  next inside => simp [inside, eq_comm]
  next outside => simp [outside]

end Word

end TableScript
