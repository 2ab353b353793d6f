import Mathlib.Tactic.Ring
import TableScript.Number

set_option autoImplicit false

namespace TableScript

namespace Rank

theorem scale_mono (r q : Rank) (h : r.val ≤ q.val) : r.scale ≤ q.scale := by
  have := Nat.div_le_div_right (c := binadeSize) h
  simp only [scale]
  omega

theorem val_eq (r : Rank) : r.val = r.scale * binadeSize + r.significand := by
  simp only [significand, scale, binadeSize]
  omega

theorem significand_lt (r : Rank) : r.significand < 2 * binadeSize := by
  simp only [significand, scale, binadeSize]
  omega

-- Above the subnormal binade a significand has its leading bit.
theorem binadeSize_le_significand (r : Rank) (h : 0 < r.scale) : binadeSize ≤ r.significand := by
  simp only [significand, scale, binadeSize] at *
  omega

theorem units_lt_units (r q : Rank) (h : r.val < q.val) : r.units < q.units := by
  have mono := scale_mono r q h.le
  -- a higher binade doubles the scale at least; within one binade the significands decide
  rcases Nat.lt_or_eq_of_le mono with less | same
  next =>
    have doubled : 2 * Nat.pow 2 r.scale ≤ Nat.pow 2 q.scale := by
      have step : 2 * Nat.pow 2 r.scale = Nat.pow 2 (r.scale + 1) := by
        simp only [Nat.pow_eq]
        ring
      rw [step]
      exact Nat.pow_le_pow_right (by decide) less
    calc r.units
        < 2 * binadeSize * Nat.pow 2 r.scale :=
          Nat.mul_lt_mul_of_pos_right (significand_lt r) (Nat.pow_pos (by decide))
      _ = binadeSize * (2 * Nat.pow 2 r.scale) := by ring
      _ ≤ binadeSize * Nat.pow 2 q.scale := Nat.mul_le_mul_left _ doubled
      _ ≤ q.units := Nat.mul_le_mul_right _ (binadeSize_le_significand q (by omega))
  next =>
    have left := val_eq r
    have right := val_eq q
    have parts : r.significand < q.significand := by
      rw [same] at left
      omega
    simp only [units, same]
    exact Nat.mul_lt_mul_of_pos_right parts (Nat.pow_pos (by decide))

theorem units_injective (r q : Rank) (h : r.units = q.units) : r = q := by
  apply Fin.ext
  rcases Nat.lt_trichotomy r.val q.val with less | same | greater
  next => exact absurd h (units_lt_units r q less).ne
  next => exact same
  next => exact absurd h (units_lt_units q r greater).ne'

end Rank

theorem unitsPerOne_pos : 0 < unitsPerOne := by
  unfold unitsPerOne
  -- The power itself is too large to be computed.
  generalize 1074 = n
  exact Nat.pow_pos (by decide)

namespace Place

@[simp] theorem compare_eq_iff (p q : Place) : p.compare q = .eq ↔ p = q := by
  cases p <;> cases q <;> simp [compare]

theorem ofInt_injective (m n : Int) (h : ofInt m = ofInt n) : m = n := by
  have positive : (unitsPerOne : Int) ≠ 0 := by exact_mod_cast unitsPerOne_pos.ne'
  exact Int.eq_of_mul_eq_mul_right positive (Place.point.inj h)

end Place

namespace Binary64

theorem signed_eq_signed (s t : Bool) (m n : Nat) (h : signed s m = signed t n) :
    m = n ∧ (m = 0 ∨ s = t) := by
  cases s <;> cases t <;> simp [signed] at h ⊢ <;> omega

theorem signed_mul (s : Bool) (m n : Nat) : signed s (m * n) = signed s m * n := by
  cases s <;> simp [signed]

theorem natAbs_signed (s : Bool) (n : Nat) : (signed s n).natAbs = n := by
  cases s <;> simp [signed]

theorem toInt?_eq_some_iff (x : Binary64) (n : Int) :
    x.toInt? = some n ↔ x.place? = some (Place.ofInt n) := by
  cases x with
  | nan => simp [toInt?, place?]
  | infinite s =>
    constructor
    next =>
      intro h
      cases h
    next =>
      intro h
      cases s <;> cases h
  | finite s r =>
    by_cases whole : r.units % unitsPerOne = 0
    next =>
      have place : place? (.finite s r) = some (Place.ofInt (signed s (r.units / unitsPerOne))) := by
        rw [Place.ofInt, ← signed_mul, Nat.div_mul_cancel (Nat.dvd_of_mod_eq_zero whole), place?]
      simp only [toInt?, whole, if_true, place, Option.some.injEq]
      exact ⟨fun h => h ▸ rfl, Place.ofInt_injective _ _⟩
    next =>
      simp only [toInt?, whole, if_false, place?, Place.ofInt, Option.some.injEq,
        Place.point.injEq, reduceCtorEq, false_iff]
      intro h
      have size : r.units = n.natAbs * unitsPerOne := by
        have sizes := congrArg Int.natAbs h
        rwa [Int.natAbs_mul, Int.natAbs_natCast, natAbs_signed] at sizes
      exact whole (by rw [size, Nat.mul_mod_left])

-- The two zeros share a place, and zero is whole; every other place belongs to one number.
theorem eq_of_place?_eq (x y : Binary64) (h : x.place? = y.place?) (broken : x.toInt? = none) :
    x = y := by
  cases x with
  | nan => exact ((place?_eq_none_iff y).mp h.symm).symm
  | infinite s =>
    cases y with
    | nan => cases s <;> simp [place?] at h
    | infinite t => cases s <;> cases t <;> simp [place?] at h ⊢
    | finite t q => cases s <;> simp [place?] at h
  | finite s r =>
    cases y with
    | nan => simp [place?] at h
    | infinite t => cases t <;> simp [place?] at h
    | finite t q =>
      simp only [place?, Option.some.injEq, Place.point.injEq] at h
      obtain ⟨size, zero | sign⟩ := signed_eq_signed s t r.units q.units h
      next => simp [toInt?, zero] at broken
      next => rw [sign, Rank.units_injective r q size]

end Binary64

end TableScript
