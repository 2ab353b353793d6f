import Mathlib.Data.Rat.Cast.Order
import Mathlib.Algebra.Order.Field.Power
import Mathlib.Tactic.FieldSimp
import Mathlib.Tactic.NormNum
import TableScript.Proofs.Number
import TableScript.Value.Operation

set_option autoImplicit false

namespace TableScript

abbrev Exact := WithBot (WithTop ℚ)

namespace Exact

def ofRat (q : ℚ) : Exact := ((q : WithTop ℚ) : WithBot (WithTop ℚ))

@[simp] theorem ofRat_inj (p q : ℚ) : ofRat p = ofRat q ↔ p = q := by
  simp [ofRat]

@[simp] theorem ofRat_lt_ofRat (p q : ℚ) : ofRat p < ofRat q ↔ p < q := by
  simp [ofRat]

theorem bot_lt_ofRat (q : ℚ) : ⊥ < ofRat q := WithBot.bot_lt_coe _

theorem ofRat_lt_top (q : ℚ) : ofRat q < ⊤ := WithBot.coe_lt_coe.mpr (WithTop.coe_lt_top q)

end Exact

namespace Rank

-- The rank is the exponent field with the fraction field behind it. With the lowest exponent the
-- fraction stands alone; with any other one it has a leading bit in front.
def magnitude (r : Rank) : ℚ :=
  let exponent := r.val / binadeSize
  let fraction := r.val % binadeSize
  if exponent = 0 then fraction * 2 ^ (-1074 : ℤ)
  else (binadeSize + fraction : ℕ) * 2 ^ ((exponent : ℤ) - 1075)

theorem cast_pow_two (n : ℕ) : ((Nat.pow 2 n : ℕ) : ℚ) = 2 ^ (n : ℤ) := by
  rw [Nat.pow_eq, Nat.cast_pow, zpow_natCast, Nat.cast_ofNat]

theorem cast_unitsPerOne : (unitsPerOne : ℚ) = 2 ^ (1074 : ℤ) := by
  have exponent : (1074 : ℤ) = (1074 : ℕ) := rfl
  rw [exponent]
  unfold unitsPerOne
  -- the power itself is too large to be computed
  generalize 1074 = n
  exact cast_pow_two n

theorem magnitude_eq (r : Rank) : r.magnitude = r.units / unitsPerOne := by
  rw [magnitude, cast_unitsPerOne]
  split
  next lowest =>
    have parts : r.scale = 0 ∧ r.significand = r.val % binadeSize := by
      simp only [significand, scale, binadeSize] at *
      omega
    rw [units, parts.1, parts.2, zpow_neg, div_eq_mul_inv, Nat.pow_eq, pow_zero, mul_one]
  next higher =>
    have parts : r.scale + 1 = r.val / binadeSize ∧ r.significand = binadeSize + r.val % binadeSize := by
      simp only [significand, scale, binadeSize] at *
      omega
    have power : (2 : ℚ) ^ ((r.val / binadeSize : ℕ) - 1075 : ℤ) =
        2 ^ (r.scale : ℤ) / 2 ^ (1074 : ℤ) := by
      rw [← parts.1, ← zpow_sub₀ two_ne_zero]
      congr 1
      push_cast
      ring
    rw [power, units, parts.2, Nat.cast_mul, cast_pow_two, mul_div_assoc]

end Rank

namespace Place

def exact : Place → Exact
  | .bottom => ⊥
  | .point units => .ofRat (units / unitsPerOne)
  | .top => ⊤

theorem compare_eq_lt_iff (p q : Place) : p.compare q = .lt ↔ p.exact < q.exact := by
  cases p with
  | bottom =>
    cases q with
    | bottom => exact iff_of_false (by simp [compare]) (lt_irrefl _)
    | point b => exact iff_of_true rfl (Exact.bot_lt_ofRat _)
    | top => exact iff_of_true rfl bot_lt_top
  | point a =>
    cases q with
    | bottom => exact iff_of_false (by simp [compare]) (Exact.bot_lt_ofRat _).not_gt
    | point b =>
      have positive : (0 : ℚ) < unitsPerOne := by exact_mod_cast unitsPerOne_pos
      rw [compare, exact, exact, Int.compare_eq_lt, Exact.ofRat_lt_ofRat,
        div_lt_div_iff_of_pos_right positive, Int.cast_lt]
    | top => exact iff_of_true rfl (Exact.ofRat_lt_top _)
  | top =>
    cases q with
    | bottom => exact iff_of_false (by simp [compare]) bot_lt_top.not_gt
    | point b => exact iff_of_false (by simp [compare]) (Exact.ofRat_lt_top _).not_gt
    | top => exact iff_of_false (by simp [compare]) (lt_irrefl _)

theorem exact_injective (p q : Place) (h : p.exact = q.exact) : p = q := by
  by_contra other
  rcases order : p.compare q with _ | _ | _
  next => exact absurd h ((compare_eq_lt_iff p q).mp order).ne
  next => exact other ((compare_eq_iff p q).mp order)
  next =>
    have less : q.compare p = .lt := by rw [← compare_swap p q, order]; rfl
    exact absurd h ((compare_eq_lt_iff q p).mp less).ne'

theorem compare_eq_cmp (p q : Place) : p.compare q = cmp p.exact q.exact := by
  rcases order : p.compare q with _ | _ | _
  next => exact ((cmp_eq_lt_iff _ _).mpr ((compare_eq_lt_iff p q).mp order)).symm
  next => rw [(compare_eq_iff p q).mp order, cmp_self_eq_eq]
  next =>
    have less : q.compare p = .lt := by rw [← compare_swap p q, order]; rfl
    exact ((cmp_eq_gt_iff _ _).mpr ((compare_eq_lt_iff q p).mp less)).symm

end Place

namespace Binary64

def amount? : Binary64 → Option Exact
  | .nan => none
  | .infinite negative => some (if negative then ⊥ else ⊤)
  | .finite negative r => some (.ofRat (if negative then -r.magnitude else r.magnitude))

theorem amount?_eq (x : Binary64) : x.amount? = x.place?.map Place.exact := by
  cases x with
  | nan => rfl
  | infinite s => cases s <;> rfl
  | finite s r =>
    rw [amount?, place?, Option.map_some, Place.exact, Rank.magnitude_eq]
    cases s with
    | false => simp only [signed, Bool.false_eq_true, if_false, Int.cast_natCast]
    | true => simp only [signed, if_true, Int.cast_neg, Int.cast_natCast, neg_div]

end Binary64

namespace Value

def IsNumber (v : Value) : Prop := ∃ a, v.number? = some a

def amount? : Value → Option Exact
  | .bool b => some (.ofRat (if b then 1 else 0))
  | .int n => some (.ofRat n)
  | .real x => x.amount?
  | _ => Option.none

theorem amount?_of_number? (v : Value) (a : Number) (h : v.number? = some a) :
    v.amount? = a.place?.map Place.exact := by
  have whole (n : Int) : (Place.ofInt n).exact = .ofRat n := by
    have positive : (unitsPerOne : ℚ) ≠ 0 := by exact_mod_cast unitsPerOne_pos.ne'
    rw [Place.ofInt, Place.exact, Int.cast_mul, Int.cast_natCast, mul_div_cancel_right₀ _ positive]
  cases v with
  | bool b =>
    cases h
    rw [amount?, Number.place?, Option.map_some, whole]
    cases b <;> rfl
  | int n =>
    cases h
    rw [amount?, Number.place?, Option.map_some, whole]
  | real x =>
    cases h
    exact Binary64.amount?_eq x
  | _ => cases h

theorem amount?_eq_none_iff (v : Value) (h : v.IsNumber) : v.amount? = Option.none ↔ v = .real .nan := by
  obtain ⟨a, number⟩ := h
  rw [amount?_of_number? v a number, Option.map_eq_none_iff]
  cases v with
  | bool b => cases number; simp [Number.place?]
  | int n => cases number; simp [Number.place?]
  | real x => cases number; simp [Number.place?]
  | _ => cases number

theorem equal_of_isNumber (v w : Value) (left : v.IsNumber) (right : w.IsNumber) :
    v.equal w = true ↔ ∃ p, v.amount? = some p ∧ w.amount? = some p := by
  obtain ⟨a, number⟩ := left
  obtain ⟨b, number'⟩ := right
  have numbers : v.equal w = a.same b := by
    cases v <;> cases w <;> simp_all [number?, equal, sameNumber]
  rw [numbers, Number.same_iff, amount?_of_number? v a number, amount?_of_number? w b number']
  constructor
  next =>
    rintro ⟨p, here, there⟩
    exact ⟨p.exact, by rw [here]; rfl, by rw [there]; rfl⟩
  next =>
    simp only [Option.map_eq_some_iff]
    rintro ⟨_, ⟨p, here, rfl⟩, q, there, same⟩
    exact ⟨p, here, by rw [there, Place.exact_injective q p same]⟩

theorem compare_of_isNumber (v w : Value) (left : v.IsNumber) (right : w.IsNumber) :
    v.compare w =
      match v.amount?, w.amount? with
      | some p, some q => .ordered (cmp p q)
      | _, _ => .unordered := by
  obtain ⟨a, number⟩ := left
  obtain ⟨b, number'⟩ := right
  have numbers : v.compare w = compareNumbers v w := by
    cases v <;> cases w <;> simp_all [number?, compare]
  rw [numbers, compareNumbers, number, number', amount?_of_number? v a number,
    amount?_of_number? w b number']
  dsimp only
  rw [Number.compare?_eq]
  cases a.place? with
  | none => rfl
  | some p =>
    cases b.place? with
    | none => rfl
    | some q => exact congrArg Verdict.ordered (Place.compare_eq_cmp p q)

-- What each comparison asks of an outcome is what the same relation asks of the numbers.
theorem asks_cmp (p q : Exact) :
    (cmp p q).isLT = decide (p < q) ∧ (cmp p q).isGT = decide (p > q) ∧
      (cmp p q).isLE = decide (p ≤ q) ∧ (cmp p q).isGE = decide (p ≥ q) := by
  have holds := cmp_compares p q
  generalize cmp p q = order at holds
  cases order with
  | lt =>
    have less : p < q := holds
    simp [less, less.le, less.not_gt, less.not_ge]
  | eq =>
    have same : p = q := holds
    simp [same]
  | gt =>
    have greater : q < p := holds
    simp [greater, greater.le, greater.not_gt, greater.not_ge]

theorem comparisons_are_exact (v w : Value) (left : v.IsNumber) (right : w.IsNumber) :
    ((v.amount? = Option.none ↔ v = .real .nan) ∧ (w.amount? = Option.none ↔ w = .real .nan)) ∧
    (∀ p q, v.amount? = some p → w.amount? = some q →
      binary .equal v w = .ok (.bool (p = q)) ∧
      binary .notEqual v w = .ok (.bool (p ≠ q)) ∧
      binary .less v w = .ok (.bool (p < q)) ∧
      binary .greater v w = .ok (.bool (p > q)) ∧
      binary .lessEqual v w = .ok (.bool (p ≤ q)) ∧
      binary .greaterEqual v w = .ok (.bool (p ≥ q))) ∧
    (v = .real .nan ∨ w = .real .nan →
      binary .notEqual v w = .ok (.bool true) ∧
      ∀ op, op = .equal ∨ op = .less ∨ op = .greater ∨ op = .lessEqual ∨ op = .greaterEqual →
        binary op v w = .ok (.bool false)) := by
  have equal := equal_of_isNumber v w left right
  have order := compare_of_isNumber v w left right
  refine ⟨⟨amount?_eq_none_iff v left, amount?_eq_none_iff w right⟩, ?_, ?_⟩
  next =>
    intro p q here there
    have same : v.equal w = decide (p = q) := by
      rw [Bool.eq_iff_iff, equal, here, there]
      simp [eq_comm]
    rw [here, there] at order
    have asked := asks_cmp p q
    dsimp only at order
    generalize cmp p q = outcome at order asked
    obtain ⟨less, greater, lessEqual, greaterEqual⟩ := asked
    simp only [binary, ordering, order, same, less, greater, lessEqual, greaterEqual, decide_not,
      and_self]
  next =>
    intro nan
    have none : v.amount? = Option.none ∨ w.amount? = Option.none :=
      nan.imp (amount?_eq_none_iff v left).mpr (amount?_eq_none_iff w right).mpr
    have unequal : v.equal w = false := by
      rw [Bool.eq_false_iff, Ne, equal]
      rintro ⟨p, here, there⟩
      simp [here, there] at none
    have unordered : v.compare w = .unordered := by
      rw [order]
      split
      next here there => simp [here, there] at none
      next => rfl
    refine ⟨by simp [binary, unequal], ?_⟩
    rintro op (rfl | rfl | rfl | rfl | rfl) <;> simp [binary, ordering, unequal, unordered]

def wide : Binary64 := .finite false ⟨1076 * binadeSize, by decide⟩

theorem comparisons_are_exact_wide :
    (IsNumber (.int 9007199254740993) ∧ IsNumber (.real wide)) ∧
      binary .equal (.int 9007199254740993) (.real wide) = .ok (.bool false) ∧
      binary .greater (.int 9007199254740993) (.real wide) = .ok (.bool true) := by
  have left : IsNumber (.int 9007199254740993) := ⟨_, rfl⟩
  have right : IsNumber (.real wide) := ⟨_, rfl⟩
  have value : amount? (.real wide) = some (.ofRat 9007199254740992) := by
    rw [amount?, wide, Binary64.amount?]
    norm_num [Rank.magnitude]
  obtain ⟨equal, -, -, greater, -⟩ :=
    (comparisons_are_exact _ _ left right).2.1 _ _ rfl value
  refine ⟨⟨left, right⟩, ?_, ?_⟩
  next => rw [equal]; norm_num
  next => rw [greater]; norm_num

end Value

end TableScript
