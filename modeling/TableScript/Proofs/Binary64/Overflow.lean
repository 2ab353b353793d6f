import TableScript.Proofs.Decimal.Rounding

set_option autoImplicit false

namespace TableScript

namespace Binary64

def overflowBound : Nat := (Nat.pow 2 54 - 1) * Nat.pow 2 970

-- From halfway above an odd number the even one is the next.
theorem roundHalfEven_le_iff (num den m : Nat) (positive : 0 < den) (odd : m % 2 = 1) :
    roundHalfEven num den ≤ m ↔ 2 * num < (2 * m + 1) * den := by
  have parts : den * (num / den) + num % den = num := Nat.div_add_mod num den
  have rest : num % den < den := Nat.mod_lt num positive
  have goal : (2 * m + 1) * den = 2 * (den * m) + den := by ring
  rw [goal]
  simp only [roundHalfEven]
  generalize num / den = whole at *
  generalize num % den = left at *
  rcases Nat.lt_trichotomy whole m with below | rfl | above
  next =>
    have : den * (whole + 1) ≤ den * m := Nat.mul_le_mul_left den below
    rw [Nat.mul_succ] at this
    split <;> [skip; split] <;> omega
  next => split <;> [skip; split] <;> omega
  next =>
    have : den * (m + 1) ≤ den * whole := Nat.mul_le_mul_left den above
    rw [Nat.mul_succ] at this
    split <;> [skip; split] <;> omega

theorem roundHalfEven_le_succ (num den : Nat) : roundHalfEven num den ≤ num / den + 1 := by
  simp only [roundHalfEven]
  split <;> [skip; split] <;> omega

theorem nearestRank_whole (num : Nat) :
    nearestRank num 1 = (num.log2 - 52) * binadeSize + roundHalfEven num (2 ^ (num.log2 - 52)) := by
  simp only [nearestRank, Nat.div_one, Nat.one_mul, Nat.pow_eq]

-- Three ranges of the leading bit: below the highest binade, in it and above it.
theorem nearestRank_lt_iff (num k : Nat) (exponent : k = 2044) :
    nearestRank num 1 < rankCount ↔ num < (2 ^ 54 - 1) * 2 ^ k := by
  rcases Nat.eq_zero_or_pos num with rfl | positive
  next =>
    rw [nearestRank_eq_zero 0 1 (by decide)]
    exact iff_of_true (by decide) (Nat.mul_pos (by decide) (Nat.two_pow_pos k))
  rcases Nat.lt_trichotomy num.log2 (k + 53) with below | top | above
  next =>
    have small : num < 2 ^ 53 * 2 ^ k := by
      rw [← Nat.pow_add, Nat.add_comm]
      exact (Nat.log2_lt positive.ne').mp below
    have digits : num / 2 ^ (num.log2 - 52) < 2 ^ 53 := by
      rw [Nat.div_lt_iff_lt_mul (Nat.two_pow_pos _), ← Nat.pow_add]
      calc num < 2 ^ (num.log2 + 1) := Nat.lt_log2_self
        _ ≤ 2 ^ (53 + (num.log2 - 52)) := Nat.pow_le_pow_right (by decide) (by omega)
    have rounded := roundHalfEven_le_succ num (2 ^ (num.log2 - 52))
    have scale : (num.log2 - 52) * binadeSize ≤ 2044 * binadeSize :=
      Nat.mul_le_mul_right _ (by omega)
    apply iff_of_true
    next =>
      rw [nearestRank_whole]
      simp only [rankCount, binadeSize] at *
      omega
    next => exact small.trans_le (Nat.mul_le_mul_right _ (by decide))
  next =>
    have scale : num.log2 - 52 = k + 1 := by omega
    have half := roundHalfEven_le_iff num (2 ^ (k + 1)) (2 ^ 53 - 1) (Nat.two_pow_pos _) (by decide)
    rw [nearestRank_whole, scale]
    rw [Nat.pow_succ] at half ⊢
    generalize 2 ^ k = unit at *
    simp only [rankCount, binadeSize, exponent]
    omega
  next =>
    have large : 2 ^ (k + 54) ≤ num := (Nat.le_log2 positive.ne').mp above
    have beyond := rankCount_le_nearestRank num 1 (k + 54) (by decide) (by omega)
      (by rwa [Nat.mul_one])
    rw [Nat.pow_add, Nat.mul_comm] at large
    generalize 2 ^ k = unit at *
    omega

theorem isFinite_ofUnits (negative : Bool) (num den : Nat) :
    (ofUnits negative num den).isFinite = true ↔ nearestRank num den < rankCount := by
  simp only [ofUnits]
  split
  next inside => simp [isFinite, inside]
  next outside => simp [isFinite, outside]

-- A bit below the even part of a number cannot carry it over an even bound.
theorem leadingWord_lt_iff (n m : Nat) :
    leadingWord n < 2 * m ↔ n / 2 ^ (n.log2 - 63) < 2 * m := by
  have halved (x : Nat) : (x ||| 1) / 2 = x / 2 := by
    rw [Nat.or_div_two]
    simp
  simp only [leadingWord, Nat.pow_eq]
  generalize n / 2 ^ (n.log2 - 63) = lead
  have := halved lead
  split <;> omega

theorem leading_lt_iff (n k : Nat) (exponent : k = 970) :
    leadingWord n * 2 ^ (n.log2 - 63) < (2 ^ 54 - 1) * 2 ^ k ↔ n < (2 ^ 54 - 1) * 2 ^ k := by
  by_cases short : n.log2 < 64
  next =>
    have scale : n.log2 - 63 = 0 := by omega
    rw [leadingWord_of_log2_lt n short, scale, Nat.pow_zero, Nat.mul_one]
  have nonzero : n ≠ 0 := by
    rintro rfl
    exact short (by decide)
  have word := leadingWord_lt_iff n
  obtain ⟨e, bits⟩ : ∃ e, n.log2 = e + 63 := ⟨n.log2 - 63, by omega⟩
  have scale : n.log2 - 63 = e := by omega
  rw [scale] at word ⊢
  rcases Nat.lt_or_ge e k with inside | beyond
  next =>
    have even : (2 ^ 54 - 1) * 2 ^ k = 2 * ((2 ^ 54 - 1) * 2 ^ (k - 1 - e)) * 2 ^ e := by
      have split : 2 ^ k = 2 ^ (k - 1 - e) * 2 ^ 1 * 2 ^ e := by
        rw [← Nat.pow_add, ← Nat.pow_add]
        congr 1
        omega
      rw [split]
      ring
    rw [even, Nat.mul_lt_mul_right (Nat.two_pow_pos e), word,
      Nat.div_lt_iff_lt_mul (Nat.two_pow_pos e)]
  next =>
    have bound : (2 ^ 54 - 1) * 2 ^ k ≤ 2 * 2 ^ 62 * 2 ^ e :=
      Nat.mul_le_mul (by decide) (Nat.pow_le_pow_right (by decide) beyond)
    have large : 2 * 2 ^ 62 * 2 ^ e ≤ n := by
      have least := Nat.log2_self_le nonzero
      rwa [bits, Nat.add_comm, Nat.pow_add] at least
    have lead : 2 * 2 ^ 62 ≤ leadingWord n := by
      rw [← Nat.not_lt, word, Nat.not_lt, Nat.le_div_iff_mul_le (Nat.two_pow_pos e)]
      exact large
    have product := Nat.mul_le_mul_right (2 ^ e) lead
    exact iff_of_false (bound.trans product).not_gt (bound.trans large).not_gt

theorem exists_overflowBound_eq : ∃ k, k = 970 ∧ overflowBound = (2 ^ 54 - 1) * 2 ^ k := by
  refine ⟨970, rfl, ?_⟩
  unfold overflowBound
  generalize 970 = k
  rfl

theorem one_lt_overflowBound : 1 < overflowBound := by
  obtain ⟨k, -, bound⟩ := exists_overflowBound_eq
  have := Nat.two_pow_pos k
  rw [bound]
  generalize 2 ^ k = unit at *
  omega

theorem isFinite_ofInt (n : Int) : (ofInt n).isFinite = true ↔ n.natAbs < overflowBound := by
  obtain ⟨m, units, inUnits⟩ := Decimal.exists_unitsPerOne_eq
  obtain ⟨k, exponent, bound⟩ := exists_overflowBound_eq
  have finite := nearestRank_lt_iff
    (leadingWord n.natAbs * 2 ^ (n.natAbs.log2 - 63) * 2 ^ m) (k + m) (by omega)
  rw [Nat.pow_add, ← Nat.mul_assoc, Nat.mul_lt_mul_right (Nat.two_pow_pos m),
    leading_lt_iff n.natAbs k exponent] at finite
  rw [ofInt, isFinite_ofUnits, inUnits, bound]
  exact finite

end Binary64

end TableScript
