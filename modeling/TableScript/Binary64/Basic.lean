set_option autoImplicit false

namespace TableScript

abbrev binadeSize : Nat := 4503599627370496

abbrev rankCount : Nat := 2047 * binadeSize

abbrev Rank := Fin rankCount

/-- One unit is `2 ^ -1074`, so the number one has this many of them. -/
def unitsPerOne : Nat := Nat.pow 2 1074

def Rank.scale (r : Rank) : Nat := r.val / binadeSize - 1

def Rank.significand (r : Rank) : Nat := r.val - r.scale * binadeSize

def Rank.units (r : Rank) : Nat := r.significand * Nat.pow 2 r.scale

inductive Binary64 where
  | nan
  | infinite (negative : Bool)
  | finite (negative : Bool) (rank : Rank)
deriving DecidableEq, Repr, Inhabited

namespace Binary64

def zeroRank : Rank := ⟨0, by decide⟩

def zero : Binary64 := .finite false zeroRank

def isFinite : Binary64 → Bool
  | .finite _ _ => true
  | _ => false

def isZero : Binary64 → Bool
  | .finite _ r => r.val == 0
  | _ => false

def neg : Binary64 → Binary64
  | .nan => .nan
  | .infinite s => .infinite !s
  | .finite s r => .finite (!s) r

def signed (negative : Bool) (n : Nat) : Int := if negative then -(n : Int) else n

def roundHalfEven (num den : Nat) : Nat :=
  let whole := num / den
  let twice := 2 * (num % den)
  if twice < den then whole
  else if den < twice then whole + 1
  else whole + whole % 2

/--
The rank nearest to `num / den` units: the scale keeps 53 bits of the quotient, and a significand
that rounds up to `2 ^ 53` carries into the next binade by itself.
-/
def nearestRank (num den : Nat) : Nat :=
  let scale := (num / den).log2 - 52
  scale * binadeSize + roundHalfEven num (den * Nat.pow 2 scale)

def ofUnits (negative : Bool) (num den : Nat) : Binary64 :=
  let r := nearestRank num den
  if h : r < rankCount then .finite negative ⟨r, h⟩ else .infinite negative

/--
The leading 64 bits of a number. The last of them is set as well if lower bits are, so that what is
just above halfway does not look like halfway. Lower bits are looked for in words of 64 bits from the
low end on, and in each word only among as many low bits as the highest word has.
-/
def leadingWord (n : Nat) : Nat :=
  let lead := n / Nat.pow 2 (n.log2 - 63)
  let seen := n.log2 % 64 + 1
  if (List.range (n.log2 / 64)).any fun i => n / Nat.pow 2 (64 * i) % Nat.pow 2 seen != 0 then
    lead ||| 1
  else lead

theorem leadingWord_of_log2_lt (n : Nat) (h : n.log2 < 64) : leadingWord n = n := by
  simp [leadingWord, Nat.sub_eq_zero_of_le (Nat.le_of_lt_succ h), Nat.div_eq_of_lt h]

def ofInt (n : Int) : Binary64 :=
  let size := n.natAbs
  ofUnits (decide (n < 0)) (leadingWord size * Nat.pow 2 (size.log2 - 63) * unitsPerOne) 1

def toInt? : Binary64 → Option Int
  | .finite s r =>
    if r.units % unitsPerOne = 0 then some (signed s (r.units / unitsPerOne)) else none
  | _ => none

def floor (negative : Bool) (r : Rank) : Int := signed negative r.units / unitsPerOne

def add : Binary64 → Binary64 → Binary64
  | .finite s r, .finite t q =>
    let sum := signed s r.units + signed t q.units
    if sum = 0 then .finite (s && t) zeroRank
    else ofUnits (decide (sum < 0)) sum.natAbs 1
  | .infinite s, .infinite t => if s = t then .infinite s else .nan
  | .infinite s, .finite _ _ => .infinite s
  | .finite _ _, .infinite t => .infinite t
  | .nan, _ => .nan
  | _, .nan => .nan

def sub (x y : Binary64) : Binary64 := x.add y.neg

def mul : Binary64 → Binary64 → Binary64
  | .finite s r, .finite t q => ofUnits (s != t) (r.units * q.units) unitsPerOne
  | .infinite s, .infinite t => .infinite (s != t)
  | .infinite s, .finite t q => if q.val = 0 then .nan else .infinite (s != t)
  | .finite s r, .infinite t => if r.val = 0 then .nan else .infinite (s != t)
  | .nan, _ => .nan
  | _, .nan => .nan

def div : Binary64 → Binary64 → Binary64
  | .finite s r, .finite t q =>
    if q.val = 0 then
      if r.val = 0 then .nan else .infinite (s != t)
    else ofUnits (s != t) (r.units * unitsPerOne) q.units
  | .infinite _, .infinite _ => .nan
  | .infinite s, .finite t _ => .infinite (s != t)
  | .finite s _, .infinite t => .finite (s != t) zeroRank
  | .nan, _ => .nan
  | _, .nan => .nan

end Binary64

inductive Place where
  | bottom
  | point (units : Int)
  | top
deriving DecidableEq, Repr

namespace Place

def compare : Place → Place → Ordering
  | .bottom, .bottom => .eq
  | .bottom, _ => .lt
  | .point _, .bottom => .gt
  | .point a, .point b => Ord.compare a b
  | .point _, .top => .lt
  | .top, .top => .eq
  | .top, _ => .gt

def ofInt (n : Int) : Place := .point (n * unitsPerOne)

end Place

namespace Binary64

def place? : Binary64 → Option Place
  | .nan => none
  | .infinite true => some .bottom
  | .infinite false => some .top
  | .finite s r => some (.point (signed s r.units))

def compare? (x y : Binary64) : Option Ordering :=
  match x.place?, y.place? with
  | some p, some q => some (p.compare q)
  | _, _ => none

@[simp] theorem place?_eq_none_iff (x : Binary64) : x.place? = none ↔ x = .nan := by
  cases x with
  | nan => simp [place?]
  | infinite s => cases s <;> simp [place?]
  | finite s r => simp [place?]

end Binary64

end TableScript
