import TableScript.Binary64.Basic

set_option autoImplicit false

namespace TableScript

structure Decimal where
  digits : Nat
  exponent : Int
deriving DecidableEq, Repr, Inhabited

namespace Decimal

def digitChars (n : Nat) : List Char := Nat.toDigits 10 n

def ofDigitChars (ds : List Char) : Nat :=
  ds.foldl (fun n c => 10 * n + (c.toNat - '0'.toNat)) 0

def numerator (d : Decimal) : Nat := d.digits * Nat.pow 10 d.exponent.toNat * unitsPerOne

def denominator (d : Decimal) : Nat := Nat.pow 10 (-d.exponent).toNat

def rank (d : Decimal) : Nat := Binary64.nearestRank d.numerator d.denominator

def leading (d : Decimal) : Int := d.exponent + ((digitChars d.digits).length - 1 : Nat)

/--
The number that a signed decimal reads as. Decimals from `10 ^ 400` on are beyond every number, and
those below `10 ^ -400` round to zero, so no power of a larger exponent is ever computed.
-/
def toBinary64 (negative : Bool) (d : Decimal) : Binary64 :=
  if d.digits = 0 ∨ d.leading < -400 then .finite negative Binary64.zeroRank
  else if 400 ≤ d.leading then .infinite negative
  else Binary64.ofUnits negative d.numerator d.denominator

def trim (d : Decimal) : Decimal :=
  if d.digits ≠ 0 ∧ d.digits % 10 = 0 then trim ⟨d.digits / 10, d.exponent + 1⟩ else d
termination_by d.digits
decreasing_by omega

def round (count : Nat) (d : Decimal) : Decimal :=
  let dropped := (digitChars d.digits).length - count
  let ten := Nat.pow 10 dropped
  trim ⟨(2 * d.digits + ten) / (2 * ten), d.exponent + dropped⟩

end Decimal

namespace Decimal

inductive Tie where
  | up
  | toEven
deriving DecidableEq, Repr

def gridNumerator (r : Rank) (p : Int) : Nat := r.units * Nat.pow 10 (-p).toNat

def gridDenominator (p : Int) : Nat := unitsPerOne * Nat.pow 10 p.toNat

def neighbours (r : Rank) (p : Int) : Decimal × Decimal :=
  let low := gridNumerator r p / gridDenominator p
  (⟨low, p⟩, ⟨low + 1, p⟩)

def readsBack (r : Rank) (d : Decimal) : Bool := d.rank == r.val

def nearer (tie : Tie) (num den : Nat) (below above : Decimal) : Decimal :=
  let twice := 2 * (num % den)
  if twice < den then below
  else if den < twice then above
  else if tie = .toEven ∧ below.digits % 2 = 0 then below
  else above

def onGrid (tie : Tie) (r : Rank) (p : Int) : Option Decimal :=
  let around := neighbours r p
  if readsBack r around.1 then
    if readsBack r around.2 then
      some (nearer tie (gridNumerator r p) (gridDenominator p) around.1 around.2)
    else some around.1
  else if readsBack r around.2 then some around.2
  else none

def gridTop (r : Rank) : Int := ((r.units.log2 : Int) - 1073) * 30103 / 100000 + 1

def exact (r : Rank) : Decimal := ⟨r.units * Nat.pow 5 1074, -1074⟩

/-- Seventeen digits tell every two magnitudes apart, so a grid is found among the first twenty. -/
def shortest (tie : Tie) (r : Rank) : Decimal :=
  if r.val = 0 then ⟨0, 0⟩
  else
    match (List.range 20).findSome? fun (i : Nat) => onGrid tie r (gridTop r - i) with
    | some d => d
    | none => exact r

end Decimal

namespace Decimal

structure Format where
  lowest : Int
  highest : Int
  fraction : Bool
  exponentWidth : Nat
deriving DecidableEq, Repr

namespace Format

def padded (width : Nat) (n : Nat) : List Char :=
  let ds := digitChars n
  List.replicate (width - ds.length) '0' ++ ds

def positional (whole : Nat) (ds : List Char) : List Char :=
  let front := ds.take whole ++ List.replicate (whole - ds.length) '0'
  let back := ds.drop whole
  front ++ '.' :: (if back.isEmpty then ['0'] else back)

def scientific (f : Format) (e : Int) (ds : List Char) : List Char :=
  let back := ds.drop 1
  let point :=
    if back.isEmpty then (if f.fraction then ['.', '0'] else [])
    else '.' :: back
  ds.take 1 ++ point ++ 'e' :: (if e < 0 then '-' else '+') :: padded f.exponentWidth e.natAbs

def magnitude (f : Format) (d : Decimal) : List Char :=
  let ds := digitChars d.digits
  let e := d.leading
  if f.lowest ≤ e ∧ e ≤ f.highest then
    if 0 ≤ e then positional (e.toNat + 1) ds
    else '0' :: '.' :: (List.replicate ((-e).toNat - 1) '0' ++ ds)
  else scientific f e ds

def signed (f : Format) (negative : Bool) (d : Decimal) : List Char :=
  if negative then '-' :: f.magnitude d else f.magnitude d

end Format

end Decimal

end TableScript
