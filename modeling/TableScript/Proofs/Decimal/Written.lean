import TableScript.Decimal.Basic
import TableScript.Decimal.Numeral
import TableScript.Proofs.Decimal.Rounding
import TableScript.Value.Literal

set_option autoImplicit false

namespace TableScript

namespace Numeral

structure Digits where
  chars : List Char
  nonempty : chars ≠ []
  all : ∀ c ∈ chars, isDigit c = true

structure Written where
  negative : Bool
  whole : Digits
  fraction : Option Digits
  power : Option (Bool × Digits)

namespace Written

def signChars (negative : Bool) : List Char := if negative then ['-'] else []

def fractionChars : Option Digits → List Char
  | none => []
  | some ds => '.' :: ds.chars

def powerChars : Option (Bool × Digits) → List Char
  | none => []
  | some (down, ds) => 'e' :: (if down then '-' else '+') :: ds.chars

def chars (w : Written) : List Char :=
  signChars w.negative ++ (w.whole.chars ++ (fractionChars w.fraction ++ powerChars w.power))

def numeral (w : Written) : Numeral where
  negative := w.negative
  whole := w.whole.chars
  fraction := w.fraction.map (·.chars)
  exponent := w.power.map fun p => Binary64.signed p.1 (Decimal.ofDigitChars p.2.chars)

end Written

def Ends (rest : List Char) : Prop :=
  ∀ c, rest.head? = some c → isDigit c = false ∧ c ≠ '.' ∧ c ≠ 'e' ∧ c ≠ 'E'

theorem digits_append (ds rest : List Char) (all : ∀ c ∈ ds, isDigit c = true)
    (stop : ∀ c, rest.head? = some c → isDigit c = false) : digits (ds ++ rest) = (ds, rest) := by
  have none : rest.takeWhile isDigit = [] ∧ rest.dropWhile isDigit = rest := by
    cases rest with
    | nil => exact ⟨rfl, rfl⟩
    | cons c rest => simp [stop c rfl]
  rw [digits, List.takeWhile_append_of_pos all, List.dropWhile_append_of_pos all, none.1, none.2,
    List.append_nil]

theorem Digits.exists_cons (ds : Digits) : ∃ c rest, ds.chars = c :: rest ∧ isDigit c = true := by
  obtain ⟨chars, nonempty, all⟩ := ds
  obtain ⟨c, rest, rfl⟩ := List.exists_cons_of_ne_nil nonempty
  exact ⟨c, rest, rfl, all c List.mem_cons_self⟩

theorem Digits.head?_take (ds : Digits) (n : Nat) : (ds.chars.take (n + 1)).head? = ds.chars.head? := by
  obtain ⟨c, rest, shape, _⟩ := ds.exists_cons
  rw [shape]
  rfl

theorem Digits.head?_append (ds : Digits) (rest : List Char) :
    (ds.chars ++ rest).head? = ds.chars.head? := by
  obtain ⟨c, cs, shape, _⟩ := ds.exists_cons
  rw [shape]
  rfl

theorem sign_of_ne (c : Char) (cs : List Char) (minus : c ≠ '-') (plus : c ≠ '+') :
    sign (c :: cs) = (false, c :: cs) := by
  unfold sign
  split <;> simp_all

theorem sign_of_isDigit (c : Char) (cs : List Char) (h : isDigit c = true) :
    sign (c :: cs) = (false, c :: cs) := by
  apply sign_of_ne
  next => rintro rfl; exact absurd h (by decide)
  next => rintro rfl; exact absurd h (by decide)

theorem sign_digits (ds : Digits) (rest : List Char) :
    sign (ds.chars ++ rest) = (false, ds.chars ++ rest) := by
  obtain ⟨c, cs, shape, digit⟩ := ds.exists_cons
  rw [shape, List.cons_append, sign_of_isDigit c _ digit]

theorem sign_signChars (negative : Bool) (ds : Digits) (rest : List Char) :
    sign (Written.signChars negative ++ (ds.chars ++ rest)) = (negative, ds.chars ++ rest) := by
  cases negative with
  | false => exact sign_digits ds rest
  | true => rfl

theorem exponentPart_powerChars (power : Option (Bool × Digits)) (rest : List Char) (ends : Ends rest) :
    exponentPart (Written.powerChars power ++ rest) =
      (power.map fun p => Binary64.signed p.1 (Decimal.ofDigitChars p.2.chars), rest) := by
  cases power with
  | none =>
    cases rest with
    | nil => rfl
    | cons c rest =>
      obtain ⟨_, _, lower, upper⟩ := ends c rfl
      simp [Written.powerChars, exponentPart, lower, upper]
  | some power =>
    obtain ⟨down, ds⟩ := power
    have found : digits (ds.chars ++ rest) = (ds.chars, rest) :=
      digits_append ds.chars rest ds.all fun c first => (ends c first).1
    have signed : sign ((if down then '-' else '+') :: (ds.chars ++ rest)) = (down, ds.chars ++ rest) := by
      cases down <;> rfl
    simp [Written.powerChars, exponentPart, signed, found, ds.nonempty]

theorem fractionPart_fractionChars (fraction : Option Digits) (rest : List Char)
    (stop : ∀ c, rest.head? = some c → isDigit c = false ∧ c ≠ '.') :
    fractionPart (Written.fractionChars fraction ++ rest) = (fraction.map (·.chars), rest) := by
  cases fraction with
  | none =>
    cases rest with
    | nil => rfl
    | cons c rest =>
      have other := (stop c rfl).2
      unfold fractionPart
      split
      next same => simp_all [Written.fractionChars]
      next => rfl
  | some ds =>
    have found : digits (ds.chars ++ rest) = (ds.chars, rest) :=
      digits_append ds.chars rest ds.all fun c first => (stop c first).1
    simp [Written.fractionChars, fractionPart, found]

theorem head?_powerChars (power : Option (Bool × Digits)) (rest : List Char) (ends : Ends rest) (c : Char)
    (first : (Written.powerChars power ++ rest).head? = some c) : isDigit c = false ∧ c ≠ '.' := by
  cases power with
  | none =>
    obtain ⟨digit, point, _⟩ := ends c first
    exact ⟨digit, point⟩
  | some power =>
    cases first
    decide

theorem head?_fractionChars (fraction : Option Digits) (rest : List Char)
    (stop : ∀ c, rest.head? = some c → isDigit c = false ∧ c ≠ '.') (c : Char)
    (first : (Written.fractionChars fraction ++ rest).head? = some c) : isDigit c = false := by
  cases fraction with
  | none => exact (stop c first).1
  | some ds =>
    cases first
    decide

theorem scan_written (w : Written) (rest : List Char) (ends : Ends rest) :
    scan (w.chars ++ rest) = (w.numeral, rest) := by
  have power := head?_powerChars w.power rest ends
  have whole : digits (w.whole.chars ++ (Written.fractionChars w.fraction ++
      (Written.powerChars w.power ++ rest))) = (w.whole.chars, _) :=
    digits_append _ _ w.whole.all (head?_fractionChars w.fraction _ power)
  simp only [scan, Written.chars, List.append_assoc, sign_signChars, whole,
    fractionPart_fractionChars w.fraction _ power, exponentPart_powerChars w.power rest ends,
    Written.numeral]

end Numeral

theorem Binary64.signed_natAbs (n : Int) : signed (decide (n < 0)) n.natAbs = n := by
  by_cases negative : n < 0
  next =>
    simp only [signed, negative, decide_true, if_true]
    omega
  next =>
    simp only [signed, negative, decide_false, Bool.false_eq_true, if_false]
    omega

namespace Decimal

open Numeral

theorem isDigit_of_mem_digitChars (n : Nat) (c : Char) (h : c ∈ digitChars n) : isDigit c = true := by
  have digit := Nat.isDigit_of_mem_toDigits (by decide) (by decide) h
  simp only [Char.isDigit, Bool.and_eq_true, decide_eq_true_eq] at digit
  simp only [isDigit, Bool.and_eq_true, decide_eq_true_eq]
  exact digit

def digitsOf (n : Nat) : Digits :=
  ⟨digitChars n, Nat.toDigits_ne_nil, isDigit_of_mem_digitChars n⟩

def zeroDigit : Digits := ⟨['0'], List.cons_ne_nil _ _, by simp [isDigit]⟩

@[simp] theorem zeroDigit_chars : zeroDigit.chars = ['0'] := rfl

theorem ofDigitChars_eq_core (ds : List Char) : ofDigitChars ds = Nat.ofDigitChars 10 ds 0 :=
  Nat.ofDigitChars_eq_foldl.symm

theorem ofDigitChars_digitChars (n : Nat) : ofDigitChars (digitChars n) = n := by
  rw [ofDigitChars_eq_core, digitChars, Nat.ofDigitChars_ten_toDigits]

theorem ofDigitChars_append_zeros (ds : List Char) (k : Nat) :
    ofDigitChars (ds ++ List.replicate k '0') = ofDigitChars ds * 10 ^ k := by
  simp only [ofDigitChars_eq_core, Nat.ofDigitChars_append, Nat.ofDigitChars_replicate_zero, Nat.mul_comm]

theorem ofDigitChars_zeros_append (ds : List Char) (k : Nat) :
    ofDigitChars (List.replicate k '0' ++ ds) = ofDigitChars ds := by
  simp only [ofDigitChars_eq_core, Nat.ofDigitChars_append, Nat.ofDigitChars_replicate_zero, Nat.mul_zero]

theorem head?_digitChars (n : Nat) (nonzero : n ≠ 0) : (digitChars n).head? ≠ some '0' := by
  induction n using Nat.strongRecOn with
  | ind n ih =>
    rcases Nat.lt_or_ge n 10 with single | more
    next =>
      rw [digitChars, Nat.toDigits_of_lt_base single]
      have digit : ∀ m < 10, m ≠ 0 → [m.digitChar].head? ≠ some '0' := by decide
      exact digit n single nonzero
    next =>
      have front := ih (n / 10) (by omega) (by omega)
      obtain ⟨c, rest, shape⟩ := List.exists_cons_of_ne_nil (digitsOf (n / 10)).nonempty
      have whole : digitChars n = c :: (rest ++ [(n % 10).digitChar]) := by
        rw [← List.cons_append, ← shape]
        exact Nat.toDigits_of_base_le (by decide) more
      rw [whole]
      rwa [show digitChars (n / 10) = c :: rest from shape] at front

structure Spells (ds : Digits) (n : Nat) : Prop where
  worth : ofDigitChars ds.chars = n
  first : n ≠ 0 → ds.chars.head? ≠ some '0'
  zero : n = 0 → ds.chars.length = 1

theorem spells_digitsOf (n : Nat) : Spells (digitsOf n) n where
  worth := ofDigitChars_digitChars n
  first := head?_digitChars n
  zero h := by
    rw [h]
    rfl

structure WrittenAs (negative : Bool) (d : Decimal) (text : List Char) (w : Written) : Prop where
  sign : w.negative = negative
  chars : w.chars = Written.signChars negative ++ text
  worth : ∃ k : Nat, w.numeral.decimal = ⟨d.digits * 10 ^ k, d.exponent - k⟩
  pointed : w.numeral.isPlain = false
  lead : (d.digits = 0 → d.exponent ≤ 0) →
    w.whole.chars.length = 1 ∨ w.whole.chars.head? ≠ some '0'

namespace Format

section Shapes

variable {negative : Bool} {d : Decimal} {ds : Digits} (spells : Spells ds d.digits)

theorem isDigit_of_mem_zeros (k : Nat) (c : Char) (h : c ∈ List.replicate k '0') : isDigit c = true := by
  rw [List.eq_of_mem_replicate h]
  decide

theorem signed_padded (width : Nat) (e : Int) :
    Binary64.signed (decide (e < 0)) (ofDigitChars (padded width e.natAbs)) = e := by
  rw [padded, ofDigitChars_zeros_append, ofDigitChars_digitChars, Binary64.signed_natAbs]

def paddedDigits (width n : Nat) : Digits where
  chars := padded width n
  nonempty := List.append_ne_nil_of_right_ne_nil _ (digitsOf n).nonempty
  all c member :=
    (List.mem_append.mp member).elim (isDigit_of_mem_zeros _ c) (isDigit_of_mem_digitChars n c)

include spells

-- The point stands among the digits.
theorem writtenAs_inside (places : Nat) (size : d.exponent + (ds.chars.length - 1 : Nat) = places)
    (inside : places + 1 < ds.chars.length) :
    ∃ w, WrittenAs negative d (positional (places + 1) ds.chars) w := by
  have front : ds.chars.take (places + 1) ≠ [] := by simp [ds.nonempty]
  have back : ds.chars.drop (places + 1) ≠ [] := by
    rw [Ne, List.drop_eq_nil_iff]
    omega
  have digits : ofDigitChars (ds.chars.take (places + 1) ++ ds.chars.drop (places + 1)) =
      d.digits * 10 ^ 0 := by
    rw [List.take_append_drop, spells.worth, Nat.pow_zero, Nat.mul_one]
  have exponent : (0 : Int) - ((ds.chars.drop (places + 1)).length : Nat) = d.exponent - (0 : Nat) := by
    rw [List.length_drop]
    omega
  refine ⟨⟨negative, ⟨_, front, fun c member => ds.all c (List.mem_of_mem_take member)⟩,
    some ⟨_, back, fun c member => ds.all c (List.mem_of_mem_drop member)⟩, none⟩,
    rfl, ?_, ⟨0, congrArg₂ Decimal.mk digits exponent⟩, rfl, fun _ => ?_⟩
  next =>
    simp [Written.chars, Written.fractionChars, Written.powerChars, positional, back,
      Nat.sub_eq_zero_of_le inside.le]
  next =>
    by_cases none : d.digits = 0
    next => exact absurd (spells.zero none) (by omega)
    next => exact .inr (ds.head?_take places ▸ spells.first none)

-- The point stands behind the digits and as many zeros as are missing.
theorem writtenAs_behind (places : Nat) (size : d.exponent + (ds.chars.length - 1 : Nat) = places)
    (behind : ds.chars.length ≤ places + 1) :
    ∃ w, WrittenAs negative d (positional (places + 1) ds.chars) w := by
  obtain ⟨missing, count⟩ := Nat.exists_eq_add_of_le behind
  have some : 0 < ds.chars.length := List.length_pos_iff.mpr ds.nonempty
  have front : ds.chars ++ List.replicate missing '0' ≠ [] := by simp [ds.nonempty]
  have digits : ofDigitChars (ds.chars ++ List.replicate missing '0' ++ ['0']) =
      d.digits * 10 ^ (missing + 1) := by
    rw [List.append_assoc, ← List.replicate_one, List.replicate_append_replicate,
      ofDigitChars_append_zeros, spells.worth]
  have exponent : (0 : Int) - ((1 : Nat) : Int) = d.exponent - ((missing + 1 : Nat) : Int) := by omega
  refine ⟨⟨negative, ⟨_, front, fun c member =>
      (List.mem_append.mp member).elim (ds.all c) (isDigit_of_mem_zeros missing c)⟩, .some zeroDigit, none⟩,
    rfl, ?_, ⟨missing + 1, congrArg₂ Decimal.mk digits exponent⟩, rfl, fun small => ?_⟩
  next =>
    simp [Written.chars, Written.fractionChars, Written.powerChars, positional, count,
      List.take_of_length_le (Nat.le_add_right _ _)]
  next =>
    by_cases none : d.digits = 0
    next =>
      have single := spells.zero none
      have := small none
      left
      rw [List.length_append, List.length_replicate]
      omega
    next => exact .inr (ds.head?_append _ ▸ spells.first none)

theorem writtenAs_fraction (zeros : Nat)
    (size : d.exponent + (ds.chars.length - 1 : Nat) = -((zeros + 1 : Nat) : Int)) :
    ∃ w, WrittenAs negative d ('0' :: '.' :: (List.replicate zeros '0' ++ ds.chars)) w := by
  have some : 0 < ds.chars.length := List.length_pos_iff.mpr ds.nonempty
  have back : List.replicate zeros '0' ++ ds.chars ≠ [] := by simp [ds.nonempty]
  have digits : ofDigitChars (['0'] ++ (List.replicate zeros '0' ++ ds.chars)) = d.digits * 10 ^ 0 := by
    rw [← List.append_assoc, ← List.replicate_one, List.replicate_append_replicate,
      ofDigitChars_zeros_append, spells.worth, Nat.pow_zero, Nat.mul_one]
  have exponent : (0 : Int) - ((List.replicate zeros '0' ++ ds.chars).length : Nat) =
      d.exponent - (0 : Nat) := by
    rw [List.length_append, List.length_replicate]
    omega
  refine ⟨⟨negative, zeroDigit, .some ⟨_, back, fun c member =>
      (List.mem_append.mp member).elim (isDigit_of_mem_zeros zeros c) (ds.all c)⟩, none⟩,
    rfl, ?_, ⟨0, congrArg₂ Decimal.mk digits exponent⟩, rfl, fun _ => .inl rfl⟩
  simp [Written.chars, Written.fractionChars, Written.powerChars]

-- The digits behind the first one are the fraction; a single digit may get a zero for one.
theorem writtenAs_scientific (f : Format) (e : Int)
    (size : d.exponent + (ds.chars.length - 1 : Nat) = e) :
    ∃ w, WrittenAs negative d (f.scientific e ds.chars) w := by
  have power := signed_padded f.exponentWidth e
  have worth := spells.worth
  obtain ⟨c, rest, shape, digit⟩ := ds.exists_cons
  rw [shape, List.length_cons, Nat.add_sub_cancel] at size
  rw [shape] at worth ⊢
  let w (fraction : Option Digits) : Written :=
    ⟨negative, ⟨[c], List.cons_ne_nil _ _, List.forall_mem_singleton.mpr digit⟩, fraction,
      some (decide (e < 0), paddedDigits f.exponentWidth e.natAbs)⟩
  have decimal (fraction : Option Digits) : (w fraction).numeral.decimal =
      ⟨ofDigitChars ([c] ++ (fraction.map (·.chars)).getD []),
        e - ((fraction.map (·.chars)).getD []).length⟩ := by
    simp only [w, Numeral.decimal, Written.numeral, paddedDigits, Option.map_some, Option.getD_some, power]
  by_cases single : rest = []
  next =>
    subst single
    by_cases zero : f.fraction = true
    next =>
      have digits : ofDigitChars ([c] ++ ['0']) = d.digits * 10 ^ 1 := by
        rw [← List.replicate_one (a := '0'), ofDigitChars_append_zeros, worth]
      have exponent : e - ((1 : Nat) : Int) = d.exponent - ((1 : Nat) : Int) := by simp [← size]
      refine ⟨w (some zeroDigit), rfl, ?_,
        ⟨1, (decimal _).trans (congrArg₂ Decimal.mk digits exponent)⟩, rfl, fun _ => .inl rfl⟩
      simp [w, Written.chars, Written.fractionChars, Written.powerChars, scientific, paddedDigits, zero]
    next =>
      refine ⟨w none, rfl, ?_, ⟨0, (decimal _).trans ?_⟩, rfl, fun _ => .inl rfl⟩
      next =>
        simp [w, Written.chars, Written.fractionChars, Written.powerChars, scientific, paddedDigits, zero]
      next => simpa [← size] using worth
  next =>
    have others : ∀ b ∈ rest, isDigit b = true := by
      intro b member
      exact ds.all b (shape ▸ List.mem_cons_of_mem c member)
    refine ⟨w (some ⟨rest, single, others⟩), rfl, ?_, ⟨0, (decimal _).trans ?_⟩, rfl, fun _ => .inl rfl⟩
    next =>
      simp [w, Written.chars, Written.fractionChars, Written.powerChars, scientific, paddedDigits, single]
    next => simpa [← size] using worth

end Shapes

variable (negative : Bool) (d : Decimal)

theorem exists_writtenAs (f : Format) : ∃ w, WrittenAs negative d (f.magnitude d) w := by
  have spells := spells_digitsOf d.digits
  simp only [magnitude]
  split
  next =>
    split
    next above =>
      have size : d.leading = d.leading.toNat := (Int.toNat_of_nonneg above).symm
      rcases Nat.lt_or_ge (d.leading.toNat + 1) (digitChars d.digits).length with inside | behind
      next => exact writtenAs_inside spells _ size inside
      next => exact writtenAs_behind spells _ size behind
    next below => exact writtenAs_fraction spells _ (show d.leading = _ by omega)
  next => exact writtenAs_scientific spells f d.leading rfl

theorem signed_eq (f : Format) : f.signed negative d = Written.signChars negative ++ f.magnitude d := by
  cases negative <;> rfl

end Format

theorem toBinary64_shift (negative : Bool) (d : Decimal) (k : Nat) :
    toBinary64 negative ⟨d.digits * 10 ^ k, d.exponent - k⟩ = d.toBinary64 negative := by
  have same : rank ⟨d.digits * 10 ^ k, d.exponent - k⟩ = d.rank := rank_shift d.digits k d.exponent
  have rounded (c : Decimal) : Binary64.nearestRank c.numerator c.denominator = c.rank := rfl
  simp only [toBinary64_eq, Binary64.ofUnits, rounded, same]

theorem shortest_exponent (tie : Tie) (r : Rank) (zero : (shortest tie r).digits = 0) :
    (shortest tie r).exponent = 0 := by
  have none : r.val = 0 := (rank_shortest tie r).symm.trans (rank_of_digits_eq_zero _ zero)
  rw [shortest, if_pos none]

-- In every format, the shortest decimal of a number is read as that number.
theorem exists_written_shortest (f : Format) (tie : Tie) (negative : Bool) (r : Rank) :
    ∃ w : Written, f.signed negative (shortest tie r) = w.chars ∧
      w.numeral.toBinary64 = .finite negative r ∧ w.numeral.isPlain = false ∧
      (w.whole.chars.length = 1 ∨ w.whole.chars.head? ≠ some '0') := by
  obtain ⟨w, written⟩ := Format.exists_writtenAs negative (shortest tie r) f
  obtain ⟨k, worth⟩ := written.worth
  refine ⟨w, ?_, ?_, written.pointed, ?_⟩
  next => rw [Format.signed_eq, written.chars]
  next =>
    rw [Numeral.toBinary64, worth, toBinary64_shift, show w.numeral.negative = negative from written.sign]
    exact toBinary64_of_rank negative _ r (rank_shortest tie r)
  next => exact written.lead fun zero => (shortest_exponent tie r zero).le

theorem exists_written_int (n : Int) :
    ∃ w : Written, Value.intChars n = w.chars ∧ w.numeral.wholeValue = n ∧ w.numeral.isPlain = true ∧
      (w.whole.chars.length = 1 ∨ w.whole.chars.head? ≠ some '0') := by
  have spells := spells_digitsOf n.natAbs
  refine ⟨⟨decide (n < 0), digitsOf n.natAbs, none, none⟩, ?_, ?_, rfl, ?_⟩
  next =>
    by_cases negative : n < 0 <;>
      simp [Value.intChars, Written.chars, Written.signChars, Written.fractionChars,
        Written.powerChars, digitsOf, negative]
  next => simp only [Numeral.wholeValue, Written.numeral, spells.worth, Binary64.signed_natAbs]
  next =>
    by_cases zero : n.natAbs = 0
    next => exact .inl (spells.zero zero)
    next => exact .inr (spells.first zero)

end Decimal

end TableScript
