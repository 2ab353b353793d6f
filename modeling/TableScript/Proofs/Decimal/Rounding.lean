import TableScript.Decimal.Basic
import TableScript.Proofs.Binary64

set_option autoImplicit false

namespace TableScript

namespace Binary64

theorem roundHalfEven_scale (num den c : Nat) (positive : 0 < c) :
    roundHalfEven (num * c) (den * c) = roundHalfEven num den := by
  have quotient : num * c / (den * c) = num / den := Nat.mul_div_mul_right num den positive
  have rest : 2 * (num * c % (den * c)) = 2 * (num % den) * c := by
    rw [Nat.mul_mod_mul_right, Nat.mul_assoc]
  simp only [roundHalfEven, quotient, rest, Nat.mul_lt_mul_right positive]

theorem roundHalfEven_mul_right (n den : Nat) (positive : 0 < den) :
    roundHalfEven (n * den) den = n := by
  simp [roundHalfEven, Nat.mul_div_cancel n positive, positive]

theorem div_le_roundHalfEven (num den : Nat) : num / den ≤ roundHalfEven num den := by
  simp only [roundHalfEven]
  split
  next => exact Nat.le_refl _
  next => split <;> omega

theorem nearestRank_scale (num den c : Nat) (positive : 0 < c) :
    nearestRank (num * c) (den * c) = nearestRank num den := by
  simp only [nearestRank, Nat.mul_div_mul_right num den positive, Nat.mul_right_comm den c,
    roundHalfEven_scale _ _ c positive]

theorem nearestRank_congr (a b c d : Nat) (left : 0 < b) (right : 0 < d) (same : a * d = c * b) :
    nearestRank a b = nearestRank c d := by
  rw [← nearestRank_scale a b d right, same, Nat.mul_comm b d, nearestRank_scale c d b left]

theorem nearestRank_eq_zero (num den : Nat) (small : 2 * num < den) : nearestRank num den = 0 := by
  have quotient : num / den = 0 := Nat.div_eq_of_lt (by omega)
  have rest : num % den = num := Nat.mod_eq_of_lt (by omega)
  simp [nearestRank, roundHalfEven, quotient, rest, small]

-- A quotient is at least its leading bit, so at this scale 53 bits are left of it.
theorem binadeSize_le_roundHalfEven (num den scale : Nat)
    (bits : (num / den).log2 = scale + 52) (nonzero : num / den ≠ 0) :
    binadeSize ≤ roundHalfEven num (den * Nat.pow 2 scale) := by
  have leading : binadeSize * Nat.pow 2 scale ≤ num / den := by
    calc binadeSize * Nat.pow 2 scale = 2 ^ (num / den).log2 := by
          rw [bits, Nat.pow_add, Nat.mul_comm]
          rfl
      _ ≤ num / den := Nat.log2_self_le nonzero
  calc binadeSize ≤ num / den / Nat.pow 2 scale :=
        (Nat.le_div_iff_mul_le (Nat.pow_pos (by decide))).mpr leading
    _ = num / (den * Nat.pow 2 scale) := Nat.div_div_eq_div_mul num den _
    _ ≤ roundHalfEven num (den * Nat.pow 2 scale) := div_le_roundHalfEven _ _

-- The least number beyond all magnitudes is `2 ^ 1024`, which is `2 ^ 2098` units.
theorem rankCount_le_nearestRank (num den k : Nat) (positive : 0 < den) (beyond : 2098 ≤ k)
    (large : 2 ^ k * den ≤ num) : rankCount ≤ nearestRank num den := by
  have quotient : 2 ^ k ≤ num / den := (Nat.le_div_iff_mul_le positive).mpr large
  have nonzero : num / den ≠ 0 := by
    have := Nat.two_pow_pos k
    omega
  have bits : k ≤ (num / den).log2 := (Nat.le_log2 nonzero).mpr quotient
  have digits := binadeSize_le_roundHalfEven num den ((num / den).log2 - 52) (by omega) nonzero
  have scale : 2046 * binadeSize ≤ ((num / den).log2 - 52) * binadeSize :=
    Nat.mul_le_mul_right _ (by omega)
  simp only [nearestRank, rankCount]
  omega

theorem log2_units (r : Rank) : r.units.log2 - 52 = r.scale := by
  have upper := Rank.significand_lt r
  rcases Nat.eq_zero_or_pos r.scale with none | some
  next =>
    have small : r.units < 2 ^ 53 := by
      rw [Rank.units, none]
      exact (Nat.mul_one _).trans_lt upper
    rcases Nat.eq_zero_or_pos r.units with zero | positive
    next => simp [zero, none]
    next =>
      have := (Nat.log2_lt positive.ne').mpr small
      omega
  next =>
    have lower := Rank.binadeSize_le_significand r some
    have positive : r.units ≠ 0 := by
      refine Nat.mul_ne_zero (by omega) (Nat.pow_pos (by decide)).ne'
    have least : r.scale + 52 ≤ r.units.log2 := by
      rw [Nat.le_log2 positive, Nat.add_comm, Nat.pow_add]
      exact Nat.mul_le_mul_right _ lower
    have most : r.units.log2 < r.scale + 53 := by
      rw [Nat.log2_lt positive, Nat.add_comm, Nat.pow_add]
      exact Nat.mul_lt_mul_of_pos_right upper (Nat.two_pow_pos _)
    omega

theorem nearestRank_units (r : Rank) : nearestRank r.units 1 = r.val := by
  have bits : (r.units / 1).log2 - 52 = r.scale := by rw [Nat.div_one, log2_units]
  have positive : 0 < Nat.pow 2 r.scale := Nat.pow_pos (by decide)
  simp only [nearestRank, bits, Nat.one_mul]
  rw [Rank.units, roundHalfEven_mul_right _ _ positive, ← Rank.val_eq]

end Binary64

namespace Decimal

theorem denominator_pos (d : Decimal) : 0 < d.denominator := Nat.pow_pos (by decide)

theorem rank_shift (n k : Nat) (e : Int) : rank ⟨n * 10 ^ k, e - k⟩ = rank ⟨n, e⟩ := by
  apply Binary64.nearestRank_congr _ _ _ _ (denominator_pos _) (denominator_pos _)
  have balance : k + (e - k).toNat + (-e).toNat = e.toNat + (-(e - k)).toNat := by omega
  simp only [numerator, denominator, Nat.pow_eq]
  calc n * 10 ^ k * 10 ^ (e - k).toNat * unitsPerOne * 10 ^ (-e).toNat
      = n * unitsPerOne * 10 ^ (k + (e - k).toNat + (-e).toNat) := by ring
    _ = n * unitsPerOne * 10 ^ (e.toNat + (-(e - k)).toNat) := by rw [balance]
    _ = n * 10 ^ e.toNat * unitsPerOne * 10 ^ (-(e - k)).toNat := by ring

theorem rank_of_digits_eq_zero (d : Decimal) (zero : d.digits = 0) : d.rank = 0 := by
  apply Binary64.nearestRank_eq_zero
  simpa only [numerator, zero, Nat.zero_mul] using denominator_pos d

section Range

variable (d : Decimal)

theorem digits_lt : d.digits < 10 ^ (digitChars d.digits).length :=
  (Nat.length_toDigits_le_iff (by decide) Nat.length_toDigits_pos).mp (Nat.le_refl _)

theorem le_digits (nonzero : d.digits ≠ 0) :
    10 ^ ((digitChars d.digits).length - 1) ≤ d.digits := by
  rcases Nat.eq_zero_or_pos ((digitChars d.digits).length - 1) with single | more
  next =>
    rw [single, Nat.pow_zero]
    omega
  next =>
    apply Nat.le_of_not_lt
    intro less
    have shorter : (digitChars d.digits).length ≤ (digitChars d.digits).length - 1 :=
      (Nat.length_toDigits_le_iff (by decide) more).mpr less
    omega

-- The exponent is kept apart, since the power is too large to be computed.
theorem exists_unitsPerOne_eq : ∃ n, n = 1074 ∧ unitsPerOne = 2 ^ n := by
  refine ⟨1074, rfl, ?_⟩
  unfold unitsPerOne
  generalize 1074 = n
  rfl

theorem two_pow_le_ten_pow (n : Nat) : 2 ^ (3 * n) ≤ 10 ^ n := by
  rw [Nat.pow_mul]
  exact Nat.pow_le_pow_left (by decide) n

theorem two_units_le (spare : Nat) (room : 400 ≤ spare) : 2 * unitsPerOne ≤ 10 ^ spare := by
  obtain ⟨n, size, units⟩ := exists_unitsPerOne_eq
  calc 2 * unitsPerOne = 2 ^ (n + 1) := by rw [units, Nat.pow_succ, Nat.mul_comm]
    _ ≤ 2 ^ (3 * spare) := Nat.pow_le_pow_right (by decide) (by omega)
    _ ≤ 10 ^ spare := two_pow_le_ten_pow spare

theorem rank_eq_zero (small : d.leading < -400) : d.rank = 0 := by
  apply Binary64.nearestRank_eq_zero
  have digits := digits_lt d
  have some : 0 < (digitChars d.digits).length := Nat.length_toDigits_pos
  simp only [leading] at small
  generalize (digitChars d.digits).length = count at digits small some
  obtain ⟨spare, below⟩ : ∃ spare, (-d.exponent).toNat = count + spare :=
    ⟨(-d.exponent).toNat - count, by omega⟩
  have whole : d.exponent.toNat = 0 := by omega
  have units : 0 < 2 * unitsPerOne := Nat.mul_pos (by decide) unitsPerOne_pos
  simp only [numerator, denominator, whole, below, Nat.pow_eq, Nat.pow_zero, Nat.mul_one]
  calc 2 * (d.digits * unitsPerOne) = d.digits * (2 * unitsPerOne) := Nat.mul_left_comm _ _ _
    _ < 10 ^ count * (2 * unitsPerOne) := Nat.mul_lt_mul_of_pos_right digits units
    _ ≤ 10 ^ count * 10 ^ spare := Nat.mul_le_mul_left _ (two_units_le spare (by omega))
    _ = 10 ^ (count + spare) := (Nat.pow_add _ _ _).symm

theorem rankCount_le_rank (nonzero : d.digits ≠ 0) (large : 400 ≤ d.leading) :
    rankCount ≤ d.rank := by
  have digits := le_digits d nonzero
  simp only [leading] at large
  generalize (digitChars d.digits).length - 1 = count at digits large
  obtain ⟨spare, above⟩ : ∃ spare, count + d.exponent.toNat = spare + (-d.exponent).toNat :=
    ⟨count + d.exponent.toNat - (-d.exponent).toNat, by omega⟩
  obtain ⟨n, size, units⟩ := exists_unitsPerOne_eq
  apply Binary64.rankCount_le_nearestRank _ _ (3 * spare + n) (denominator_pos d) (by omega)
  simp only [numerator, denominator, units, Nat.pow_eq]
  calc 2 ^ (3 * spare + n) * 10 ^ (-d.exponent).toNat
      = 2 ^ (3 * spare) * 10 ^ (-d.exponent).toNat * 2 ^ n := by
        rw [Nat.pow_add, Nat.mul_right_comm]
    _ ≤ 10 ^ spare * 10 ^ (-d.exponent).toNat * 2 ^ n :=
        Nat.mul_le_mul_right _ (Nat.mul_le_mul_right _ (two_pow_le_ten_pow spare))
    _ = 10 ^ count * 10 ^ d.exponent.toNat * 2 ^ n := by rw [← Nat.pow_add, ← above, Nat.pow_add]
    _ ≤ d.digits * 10 ^ d.exponent.toNat * 2 ^ n :=
        Nat.mul_le_mul_right _ (Nat.mul_le_mul_right _ digits)

end Range

-- Neither end of the range is cut where rounding would have given another number.
theorem toBinary64_eq (negative : Bool) (d : Decimal) :
    d.toBinary64 negative = Binary64.ofUnits negative d.numerator d.denominator := by
  have rounded : Binary64.nearestRank d.numerator d.denominator = d.rank := rfl
  simp only [toBinary64, Binary64.ofUnits, rounded]
  split
  next zero =>
    have none : d.rank = 0 := by
      rcases zero with digits | small
      next => exact rank_of_digits_eq_zero d digits
      next => exact rank_eq_zero d small
    simp [none, Binary64.zeroRank]
  next nonzero =>
    split
    next large =>
      have beyond := rankCount_le_rank d (fun zero => nonzero (.inl zero)) large
      rw [dif_neg (Nat.not_lt.mpr beyond)]
    next => rfl

theorem toBinary64_of_rank (negative : Bool) (d : Decimal) (r : Rank) (h : d.rank = r.val) :
    d.toBinary64 negative = .finite negative r := by
  have rounded : Binary64.nearestRank d.numerator d.denominator = r.val := h
  simp [toBinary64_eq, Binary64.ofUnits, rounded]

theorem rank_fives (r : Rank) (n : Nat) (units : unitsPerOne = 2 ^ n) :
    rank ⟨r.units * Nat.pow 5 n, -n⟩ = r.val := by
  have below : (-(-(n : Int))).toNat = n := by omega
  have whole : (-(n : Int)).toNat = 0 := by omega
  have ten : 5 ^ n * 2 ^ n = 10 ^ n := (Nat.mul_pow 5 2 n).symm
  rw [← Binary64.nearestRank_units r]
  apply Binary64.nearestRank_congr _ _ _ _ (denominator_pos _) Nat.one_pos
  simp only [numerator, denominator, units, below, whole, Nat.pow_eq, Nat.pow_zero, Nat.mul_one,
    Nat.mul_assoc, ten]

theorem rank_exact (r : Rank) : (exact r).rank = r.val := by
  obtain ⟨n, rfl, units⟩ := exists_unitsPerOne_eq
  exact rank_fives r 1074 units

theorem nearer_cases (tie : Tie) (num den : Nat) (below above : Decimal) :
    nearer tie num den below above = below ∨ nearer tie num den below above = above := by
  simp only [nearer]
  split
  next => exact .inl rfl
  next =>
    split
    next => exact .inr rfl
    next =>
      split
      next => exact .inl rfl
      next => exact .inr rfl

theorem rank_of_onGrid (tie : Tie) (r : Rank) (p : Int) (d : Decimal) (h : onGrid tie r p = some d) :
    d.rank = r.val := by
  suffices reads : readsBack r d = true from eq_of_beq reads
  simp only [onGrid] at h
  split at h
  next below =>
    split at h
    next above =>
      rw [← Option.some.inj h]
      rcases nearer_cases tie (gridNumerator r p) (gridDenominator p) (neighbours r p).1
        (neighbours r p).2 with lower | upper
      next => exact (congrArg (readsBack r) lower).trans below
      next => exact (congrArg (readsBack r) upper).trans above
    next => exact Option.some.inj h ▸ below
  next =>
    split at h
    next above => exact Option.some.inj h ▸ above
    next => cases h

theorem rank_shortest (tie : Tie) (r : Rank) : (shortest tie r).rank = r.val := by
  unfold shortest
  split
  next zero =>
    rw [zero]
    exact rank_of_digits_eq_zero _ rfl
  next =>
    split
    next d found =>
      obtain ⟨i, _, grid⟩ := List.exists_of_findSome?_eq_some found
      exact rank_of_onGrid tie r _ d grid
    next => exact rank_exact r

end Decimal

end TableScript
