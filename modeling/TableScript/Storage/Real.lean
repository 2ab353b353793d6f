import TableScript.Binary64.Basic
import TableScript.Decimal.Basic
import TableScript.Decimal.Numeral

set_option autoImplicit false

namespace TableScript

/-- The magnitude `significand * 2 ^ exponent`. -/
structure Wide where
  significand : Nat
  exponent : Int
deriving DecidableEq, Repr, Inhabited

namespace Wide

def nearest (num den : Nat) (e : Int) : Wide :=
  let scale := (num / den).log2 - 63
  ⟨Binary64.roundHalfEven num (den * Nat.pow 2 scale), e + scale⟩

def ofNat (n : Nat) : Wide := nearest n 1 0

def ofRank (r : Rank) : Wide := ⟨r.significand, r.scale - 1074⟩

def tenTo : Int → Wide
  | .ofNat k => nearest (Nat.pow 10 k) 1 0
  | .negSucc k =>
    let bits := 4 * (k + 1) + 64
    nearest (Nat.pow 2 bits) (Nat.pow 10 (k + 1)) (-bits)

def mul (x y : Wide) : Wide :=
  nearest (x.significand * y.significand) 1 (x.exponent + y.exponent)

def numerator (x : Wide) : Nat := x.significand * Nat.pow 2 x.exponent.toNat

def denominator (x : Wide) : Nat := Nat.pow 2 (-x.exponent).toNat

def lt (x y : Wide) : Bool := decide (x.numerator * y.denominator < y.numerator * x.denominator)

def floor (x : Wide) : Nat := x.numerator / x.denominator

def largest : Wide := ⟨9007199254740991, 971⟩

def toBinary64 (negative : Bool) (x : Wide) : Binary64 :=
  if largest.lt x then .infinite negative
  else Binary64.ofUnits negative (x.numerator * unitsPerOne) x.denominator

end Wide

namespace StoredReal

structure Scaled where
  factor : Wide
  exponent : Int
deriving DecidableEq, Repr

namespace Scaled

def shift (power : Int) (s : Scaled) : Scaled :=
  ⟨s.factor.mul (Wide.tenTo power), s.exponent - power⟩

def shiftWhile (go : Wide → Bool) (power : Int) : Nat → Scaled → Scaled
  | 0, s => s
  | times + 1, s => if go s.factor then shiftWhile go power times (s.shift power) else s

def mostSteps : Nat := 12

def lower (s : Scaled) : Scaled :=
  let step (limit power : Int) :=
    shiftWhile (fun x => !x.lt (Wide.tenTo limit)) (-power) mostSteps
  step 19 1 (step 29 10 (step 119 100 s))

def raise (s : Scaled) : Scaled :=
  let step (limit power : Int) :=
    shiftWhile (fun x => x.lt (Wide.tenTo limit)) power mostSteps
  step 17 1 (step 7 10 (step (-97) 100 s))

def settle (s : Scaled) : Scaled :=
  if s.factor.lt (Wide.tenTo 19) then raise s else lower s

end Scaled

def precision : Nat := 15

def digits (r : Rank) : Decimal :=
  if r.val = 0 then ⟨0, 0⟩
  else
    let s := Scaled.settle ⟨Wide.ofRank r, 0⟩
    Decimal.round precision ⟨s.factor.floor, s.exponent⟩

def format : Decimal.Format :=
  { lowest := -4, highest := 14, fraction := true, exponentWidth := 2 }

def write : Binary64 → List Char
  | .nan => []
  | .infinite true => "-Inf".toList
  | .infinite false => "Inf".toList
  | .finite s r => format.signed (s && r.val != 0) (digits r)

def largestWord : Nat := 18446744073709551615

def takeDigits (n : Nat) : List Char → Nat × Nat
  | [] => (n, 0)
  | c :: cs =>
    if n < (largestWord - 9) / 10 then takeDigits (10 * n + (c.toNat - '0'.toNat)) cs
    else (n, (c :: cs).length)

def boundExponent (e : Int) : Int := if e.natAbs < 100000 then e else 10000 * e.sign

def leading (n : Numeral) : Decimal :=
  let fraction := n.fraction.getD []
  let whole := takeDigits 0 n.whole
  let all := takeDigits whole.1 fraction
  ⟨all.1, boundExponent (n.exponent.getD 0) + whole.2 - (fraction.length - all.2 : Nat)⟩

def fill (n : Nat) : Nat → Nat × Nat
  | 0 => (n, 0)
  | e + 1 => if n < largestWord / 10 then fill (10 * n) e else (n, e + 1)

def strip (n : Nat) : Nat → Nat × Nat
  | 0 => (n, 0)
  | e + 1 => if n % 10 = 0 then strip (n / 10) e else (n, e + 1)

def balance (d : Decimal) : Decimal :=
  if 0 ≤ d.exponent then
    let filled := fill d.digits d.exponent.toNat
    ⟨filled.1, filled.2⟩
  else
    let stripped := strip d.digits (-d.exponent).toNat
    ⟨stripped.1, -stripped.2⟩

def scaleBy (e : Int) (x : Wide) : Wide :=
  let step (power times : Nat) : Wide → Wide :=
    let ten := Wide.tenTo (e.sign * power)
    Nat.repeat (fun (y : Wide) => y.mul ten) times
  let size := e.natAbs
  step 1 (size % 10) (step 10 (size % 100 / 10) (step 100 (size / 100) x))

def read (n : Numeral) : Binary64 :=
  let d := balance (leading n)
  (scaleBy d.exponent (Wide.ofNat d.digits)).toBinary64 n.negative

end StoredReal

end TableScript
