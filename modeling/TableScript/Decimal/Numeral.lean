import TableScript.Decimal.Basic

set_option autoImplicit false

namespace TableScript

structure Numeral where
  negative : Bool
  whole : List Char
  fraction : Option (List Char)
  exponent : Option Int
deriving DecidableEq, Repr

namespace Numeral

def isDigit (c : Char) : Bool := decide ('0' ≤ c) && decide (c ≤ '9')

theorem isDigit_bounds (c : Char) (h : isDigit c = true) : 0x30 ≤ c.toNat ∧ c.toNat ≤ 0x39 := by
  simp only [isDigit, Bool.and_eq_true, decide_eq_true_eq, Char.le_def] at h
  exact h

def digits (cs : List Char) : List Char × List Char := (cs.takeWhile isDigit, cs.dropWhile isDigit)

theorem digits_rest_length_le (cs : List Char) : (digits cs).2.length ≤ cs.length :=
  (List.dropWhile_sublist isDigit).length_le

def sign : List Char → Bool × List Char
  | '-' :: cs => (true, cs)
  | '+' :: cs => (false, cs)
  | cs => (false, cs)

def fractionPart : List Char → Option (List Char) × List Char
  | '.' :: cs => (some (digits cs).1, (digits cs).2)
  | cs => (none, cs)

theorem fractionPart_rest_length_le (cs : List Char) :
    (fractionPart cs).2.length ≤ cs.length := by
  unfold fractionPart
  split
  next cs =>
    have := digits_rest_length_le cs
    simp only [List.length_cons]
    omega
  next => exact Nat.le_refl _

def exponentPart (cs : List Char) : Option Int × List Char :=
  match cs with
  | mark :: after =>
    if mark = 'e' ∨ mark = 'E' then
      let unsigned := sign after
      let ds := digits unsigned.2
      if ds.1.isEmpty then (none, cs)
      else (some (Binary64.signed unsigned.1 (Decimal.ofDigitChars ds.1)), ds.2)
    else (none, cs)
  | [] => (none, cs)

theorem sign_rest_length_le (cs : List Char) : (sign cs).2.length ≤ cs.length := by
  unfold sign
  split <;> simp

theorem exponentPart_rest_length_le (cs : List Char) :
    (exponentPart cs).2.length ≤ cs.length := by
  unfold exponentPart
  split
  next mark after =>
    have unsigned := sign_rest_length_le after
    have rest := digits_rest_length_le (sign after).2
    split
    next =>
      simp only
      split <;> simp only [List.length_cons] <;> omega
    next => exact Nat.le_refl _
  next => exact Nat.le_refl _

def scan (cs : List Char) : Numeral × List Char :=
  let unsigned := sign cs
  let whole := digits unsigned.2
  let fraction := fractionPart whole.2
  let exponent := exponentPart fraction.2
  (⟨unsigned.1, whole.1, fraction.1, exponent.1⟩, exponent.2)

theorem scan_rest_length_lt (c : Char) (cs : List Char) (h : isDigit c = true ∨ c = '.') :
    (scan (c :: cs)).2.length < (c :: cs).length := by
  have unsigned : (sign (c :: cs)).2 = c :: cs := by
    unfold sign
    split <;> first | rfl | simp_all [isDigit]
  have fraction := fractionPart_rest_length_le (digits (c :: cs)).2
  have exponent := exponentPart_rest_length_le (fractionPart (digits (c :: cs)).2).2
  have taken : (fractionPart (digits (c :: cs)).2).2.length < (c :: cs).length := by
    rcases h with digit | rfl
    next =>
      have shorter := digits_rest_length_le cs
      have same : (digits (c :: cs)).2 = (digits cs).2 := by simp [digits, digit]
      rw [same] at fraction ⊢
      simp only [List.length_cons]
      omega
    next =>
      have same : (digits ('.' :: cs)).2 = '.' :: cs := by simp [digits, isDigit]
      have shorter := digits_rest_length_le cs
      simp only [same, fractionPart, List.length_cons]
      omega
  simp only [scan, unsigned]
  omega

def hasDigits (n : Numeral) : Bool := !n.whole.isEmpty || !(n.fraction.getD []).isEmpty

def isPlain (n : Numeral) : Bool := n.fraction.isNone && n.exponent.isNone

def read? (cs : List Char) : Option Numeral :=
  let found := scan cs
  if found.2.isEmpty && found.1.hasDigits then some found.1 else none

def decimal (n : Numeral) : Decimal :=
  let fraction := n.fraction.getD []
  ⟨Decimal.ofDigitChars (n.whole ++ fraction), n.exponent.getD 0 - fraction.length⟩

def toBinary64 (n : Numeral) : Binary64 := n.decimal.toBinary64 n.negative

def wholeValue (n : Numeral) : Int := Binary64.signed n.negative (Decimal.ofDigitChars n.whole)

end Numeral

end TableScript
