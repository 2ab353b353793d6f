import TableScript.Proofs.Binary64.Overflow
import TableScript.Proofs.Value.Order
import TableScript.Proofs.Value.Sequence

set_option autoImplicit false

namespace TableScript

namespace ValueType

def isNumeric : ValueType → Bool
  | .bool | .int | .real => true
  | _ => false

def isCount : ValueType → Bool
  | .bool | .int => true
  | _ => false

def isSequence : ValueType → Bool
  | .str | .list => true
  | _ => false

theorem isNumeric_of_isSequence (t : ValueType) (h : t.isSequence = true) : t.isNumeric = false := by
  cases t <;> first | rfl | cases h

end ValueType

namespace Value

def Numeric (v w : Value) : Prop := v.type.isNumeric = true ∧ w.type.isNumeric = true

def Alike (v w : Value) : Prop :=
  Numeric v w ∨ (v.type = .str ∧ w.type = .str) ∨ (v.type = .list ∧ w.type = .list)

def Repeats (v w : Value) : Prop :=
  (v.type.isSequence = true ∧ w.type.isCount = true) ∨
    (v.type.isCount = true ∧ w.type.isSequence = true)

inductive Unorderable : Value → Value → Prop where
  | types (v w : Value) (h : ¬ Alike v w) : Unorderable v w
  | items (xs ys : List Value) (x y : Value)
      (first : (xs.zip ys).find? (fun pair => !equal pair.1 pair.2) = some (x, y))
      (h : Unorderable x y) : Unorderable (.list xs) (.list ys)

def Refuses (op : BinaryOperator) (v w : Value) : Prop :=
  match op with
  | .and | .or | .equal | .notEqual => False
  | .add => ¬ Alike v w
  | .sub | .div => ¬ Numeric v w
  | .mul => ¬ (Numeric v w ∨ Repeats v w)
  | .less | .greater | .lessEqual | .greaterEqual => Unorderable v w

def IsZero (v : Value) : Prop :=
  v = .int 0 ∨ v = .bool false ∨ ∃ negative, v = .real (.finite negative Binary64.zeroRank)

def TooLarge (v : Value) : Prop := ∃ n, v = .int n ∧ (Binary64.ofInt n).isFinite = false

def Converts (op : BinaryOperator) (v w : Value) : Prop :=
  op = .div ∨ (op = .add ∨ op = .sub ∨ op = .mul) ∧ ¬ (v.type = .real ↔ w.type = .real)

def Repetition (v w : Value) (s : Sequence) (n : Int) : Prop :=
  v = s.value ∧ w.count? = some n ∨ v.count? = some n ∧ w = s.value

def Overlong (v w : Value) : Prop :=
  ∃ s n, Repetition v w s n ∧ 0 < n ∧ repeatLimit < s.extent * n

inductive Outcome (op : BinaryOperator) (v w : Value) : Except OperatorError Value → Prop where
  | refused (h : Refuses op v w) : Outcome op v w (.error (.unsupportedOperands op v.type w.type))
  | zeroDivisor (taken : ¬ Refuses op v w) (divides : op = .div) (zero : w.IsZero) :
      Outcome op v w (.error .divisionByZero)
  | tooLarge (taken : ¬ Refuses op v w) (divisor : ¬ (op = .div ∧ w.IsZero))
      (converts : Converts op v w) (large : v.TooLarge ∨ w.TooLarge) :
      Outcome op v w (.error .intTooLarge)
  | tooLong (taken : ¬ Refuses op v w) (fits : ¬ (Converts op v w ∧ (v.TooLarge ∨ w.TooLarge)))
      (repeats : op = .mul) (long : Overlong v w) :
      Outcome op v w (.error (.repeatTooLarge repeatLimit))
  | result (r : Value) (taken : ¬ Refuses op v w) (divisor : ¬ (op = .div ∧ w.IsZero))
      (fits : ¬ (Converts op v w ∧ (v.TooLarge ∨ w.TooLarge)))
      (short : ¬ (op = .mul ∧ Overlong v w)) : Outcome op v w (.ok r)

theorem isNumber_iff (v : Value) : v.IsNumber ↔ v.type.isNumeric = true := by
  cases v <;> simp [IsNumber, number?, type, ValueType.isNumeric]

theorem exists_count?_iff (v : Value) : (∃ n, v.count? = some n) ↔ v.type.isCount = true := by
  cases v <;> simp [count?, type, ValueType.isCount]

theorem exists_sequence_iff (v : Value) :
    (∃ s : Sequence, v = s.value) ↔ v.type.isSequence = true := by
  constructor
  next =>
    rintro ⟨s, rfl⟩
    cases s <;> rfl
  next =>
    intro h
    cases v with
    | str s => exact ⟨.text s, rfl⟩
    | list xs => exact ⟨.items xs, rfl⟩
    | _ => cases h

theorem exists_text (v : Value) (h : v.type = .str) : ∃ s, v = .str s := by
  cases v <;> cases h
  exact ⟨_, rfl⟩

theorem exists_list (v : Value) (h : v.type = .list) : ∃ xs, v = .list xs := by
  cases v <;> cases h
  exact ⟨_, rfl⟩

theorem not_alike_iff (v w : Value) : ¬ Alike v w ↔ Apart v w := by
  cases v <;> cases w <;> simp [Alike, Numeric, Apart, scale?, type, ValueType.isNumeric]

theorem compareItems_of_find (xs ys : List Value) (x y : Value)
    (first : (xs.zip ys).find? (fun pair => !equal pair.1 pair.2) = some (x, y)) :
    compareItems xs ys = compare x y := by
  induction xs generalizing ys with
  | nil => cases first
  | cons a xs ih =>
    cases ys with
    | nil => cases first
    | cons b ys =>
      rw [List.zip_cons_cons, List.find?_cons] at first
      cases same : equal a b with
      | true =>
        simp only [same, Bool.not_true] at first
        simp only [compareItems, same, if_true, ih ys first]
      | false =>
        simp only [same, Bool.not_false, Option.some.injEq, Prod.mk.injEq] at first
        obtain ⟨rfl, rfl⟩ := first
        simp [compareItems, same]

theorem compareItems_of_find_none (xs ys : List Value)
    (none : (xs.zip ys).find? (fun pair => !equal pair.1 pair.2) = Option.none) :
    ∃ o, compareItems xs ys = .ordered o := by
  induction xs generalizing ys with
  | nil => cases ys <;> exact ⟨_, rfl⟩
  | cons a xs ih =>
    cases ys with
    | nil => exact ⟨_, rfl⟩
    | cons b ys =>
      rw [List.zip_cons_cons, List.find?_cons] at none
      cases same : equal a b with
      | true =>
        simp only [same, Bool.not_true] at none
        simp only [compareItems, same, if_true]
        exact ih ys none
      | false => simp [same] at none

theorem compare_ne_incomparable (v w : Value) (left : v.IsNumber) (right : w.IsNumber) :
    v.compare w ≠ .incomparable := by
  rw [compare_of_isNumber v w left right]
  cases v.amount? <;> cases w.amount? <;> intro h <;> cases h

theorem compare_eq_incomparable_iff (v w : Value) :
    v.compare w = .incomparable ↔ Unorderable v w := by
  constructor
  next =>
    intro h
    induction v, w using comparison_induction with
    | texts s t => cases h
    | lists xs ys ih =>
      have items : compareItems xs ys = .incomparable := h
      cases first : (xs.zip ys).find? (fun pair => !equal pair.1 pair.2) with
      | none =>
        obtain ⟨o, ordered⟩ := compareItems_of_find_none xs ys first
        rw [ordered] at items
        cases items
      | some pair =>
        have inside := (List.of_mem_zip (List.mem_of_find?_eq_some first)).1
        rw [compareItems_of_find xs ys pair.1 pair.2 first] at items
        exact .items xs ys pair.1 pair.2 first (ih pair.1 inside pair.2 items)
    | numbers v w left right => exact absurd h (compare_ne_incomparable v w left right)
    | apart v w apart => exact .types v w ((not_alike_iff v w).mpr apart)
  next =>
    intro h
    induction h with
    | types v w h => exact ((not_alike_iff v w).mp h).compare
    | items xs ys x y first h ih => exact (compareItems_of_find xs ys x y first).trans ih

theorem outcome_ordering (op : BinaryOperator) (holds : Ordering → Bool) (v w : Value)
    (order : op = .less ∨ op = .greater ∨ op = .lessEqual ∨ op = .greaterEqual) :
    Outcome op v w (ordering op holds v w) := by
  obtain ⟨refuses, noDivision, noRepetition, plain⟩ :
      (Refuses op v w ↔ Unorderable v w) ∧ op ≠ .div ∧ op ≠ .mul ∧ ¬ Converts op v w := by
    rcases order with rfl | rfl | rfl | rfl <;>
      exact ⟨Iff.rfl, by decide, by decide, by simp [Converts]⟩
  have result (r : Value) (taken : ¬ Unorderable v w) : Outcome op v w (.ok r) :=
    .result r (fun h => taken (refuses.mp h)) (fun h => noDivision h.1) (fun h => plain h.1)
      fun h => noRepetition h.1
  have known := compare_eq_incomparable_iff v w
  unfold ordering
  cases verdict : compare v w with
  | ordered o => exact result _ fun h => by simp [known.mpr h] at verdict
  | unordered => exact result _ fun h => by simp [known.mpr h] at verdict
  | incomparable => exact .refused (refuses.mpr (known.mp verdict))

theorem isZero_iff (v : Value) (a : Number) (h : v.number? = some a) :
    a.isZero = true ↔ v.IsZero := by
  cases v with
  | bool b =>
    cases h
    cases b <;> simp [Number.isZero, IsZero]
  | int n =>
    cases h
    simp [Number.isZero, IsZero]
  | real x =>
    cases h
    cases x with
    | finite s r =>
      have zero : r.val = 0 ↔ r = Binary64.zeroRank := ⟨fun h => Fin.ext h, fun h => h ▸ rfl⟩
      simp only [Number.isZero, IsZero, Binary64.isZero, beq_iff_eq, zero]
      simp
    | _ => simp [Number.isZero, IsZero, Binary64.isZero]
  | _ => cases h

-- The conversion is kept apart, since the power of two in it is too large to be computed.
theorem toBinary64?_int (n : Int) (x : Binary64) (h : x = Binary64.ofInt n) :
    (Number.int n).toBinary64? = if x.isFinite then some x else Option.none := by
  subst h
  rfl

theorem toReal_int (n : Int) (x : Binary64) (h : x = Binary64.ofInt n) :
    toReal (.int n) = if x.isFinite then .ok x else .error .intTooLarge := by
  rw [toReal, toBinary64?_int n x h]
  cases x <;> rfl

theorem toReal_cases (v : Value) (a : Number) (h : v.number? = some a) :
    (v.TooLarge ∧ toReal a = .error .intTooLarge) ∨ (¬ v.TooLarge ∧ ∃ x, toReal a = .ok x) := by
  cases v with
  | bool b =>
    cases h
    have finite : (Binary64.ofInt b.toInt).isFinite = true := by
      have := Binary64.one_lt_overflowBound
      have small : b.toInt.natAbs ≤ 1 := by cases b <;> decide
      rw [Binary64.isFinite_ofInt]
      omega
    rw [toReal_int _ _ rfl, if_pos finite]
    exact .inr ⟨by simp [TooLarge], _, rfl⟩
  | int n =>
    cases h
    rw [toReal_int n _ rfl]
    cases finite : (Binary64.ofInt n).isFinite with
    | true => exact .inr ⟨by simp [TooLarge, finite], _, rfl⟩
    | false => exact .inl ⟨⟨n, rfl, finite⟩, rfl⟩
  | real x =>
    cases h
    exact .inr ⟨by simp [TooLarge], x, rfl⟩
  | _ => cases h

theorem TooLarge.type_eq (v : Value) (h : v.TooLarge) : v.type = .int := by
  obtain ⟨n, rfl, -⟩ := h
  rfl

theorem type_of_int (v : Value) (n : Int) (h : v.number? = some (.int n)) : v.type ≠ .real := by
  cases v <;> cases h <;> simp [type]

theorem type_of_real (v : Value) (x : Binary64) (h : v.number? = some (.real x)) :
    v.type = .real := by
  cases v <;> cases h
  rfl

theorem number?_of_not_numeric (v w : Value) (h : ¬ Numeric v w) :
    v.number? = Option.none ∨ w.number? = Option.none := by
  rw [Numeric, ← isNumber_iff, ← isNumber_iff] at h
  cases left : v.number? with
  | none => exact .inl rfl
  | some a =>
    cases right : w.number? with
    | none => exact .inr rfl
    | some b => exact absurd ⟨⟨a, left⟩, b, right⟩ h

theorem arithmetic_of_not_numeric (op : BinaryOperator) (onInts : Int → Int → Int)
    (onReals : Binary64 → Binary64 → Binary64) (v w : Value) (h : ¬ Numeric v w) :
    arithmetic op onInts onReals v w = unsupported op v w := by
  unfold arithmetic
  rcases number?_of_not_numeric v w h with none | none
  next => rw [none]
  next =>
    rw [none]
    cases v.number? with
    | none => rfl
    | some a => cases a <;> rfl

theorem div_of_not_numeric (v w : Value) (h : ¬ Numeric v w) : div v w = unsupported .div v w := by
  unfold div
  rcases number?_of_not_numeric v w h with none | none
  next => rw [none]
  next =>
    rw [none]
    cases v.number? <;> rfl

theorem outcome_onReals (op : BinaryOperator) (onReals : Binary64 → Binary64 → Binary64) (v w : Value)
    (a b : Number) (left : v.number? = some a) (right : w.number? = some b)
    (taken : ¬ Refuses op v w) (divisor : ¬ (op = .div ∧ w.IsZero))
    (converts : v.TooLarge ∨ w.TooLarge → Converts op v w) (short : ¬ (op = .mul ∧ Overlong v w)) :
    Outcome op v w (do
      let x ← toReal a
      let y ← toReal b
      return .real (onReals x y)) := by
  rcases toReal_cases v a left with ⟨large, failed⟩ | ⟨small, x, done⟩
  next =>
    rw [failed]
    exact .tooLarge taken divisor (converts (.inl large)) (.inl large)
  rcases toReal_cases w b right with ⟨large, failed⟩ | ⟨small', y, done'⟩
  next =>
    rw [done, failed]
    exact .tooLarge taken divisor (converts (.inr large)) (.inr large)
  next =>
    rw [done, done']
    exact .result _ taken divisor (fun h => h.2.elim small small') short

theorem outcome_arithmetic (op : BinaryOperator) (onInts : Int → Int → Int)
    (onReals : Binary64 → Binary64 → Binary64) (v w : Value)
    (which : op = .add ∨ op = .sub ∨ op = .mul) (refuses : Refuses op v w ↔ ¬ Numeric v w)
    (short : ¬ (op = .mul ∧ Overlong v w)) :
    Outcome op v w (arithmetic op onInts onReals v w) := by
  by_cases numeric : Numeric v w
  case neg =>
    rw [arithmetic_of_not_numeric op onInts onReals v w numeric]
    exact .refused (refuses.mpr numeric)
  have taken : ¬ Refuses op v w := fun h => refuses.mp h numeric
  have noDivision : op ≠ .div := by rcases which with rfl | rfl | rfl <;> decide
  have divisor : ¬ (op = .div ∧ w.IsZero) := fun h => noDivision h.1
  obtain ⟨a, left⟩ := (isNumber_iff v).mpr numeric.1
  obtain ⟨b, right⟩ := (isNumber_iff w).mpr numeric.2
  -- a number too large is whole, so the other one is real where both become real
  have converts (real : v.type = .real ∨ w.type = .real) (large : v.TooLarge ∨ w.TooLarge) :
      Converts op v w := by
    refine .inr ⟨which, fun same => ?_⟩
    rcases large with large | large
    next => simp [large.type_eq, ← same] at real
    next => simp [large.type_eq, same] at real
  cases a with
  | int m =>
    cases b with
    | int n =>
      have done : arithmetic op onInts onReals v w = .ok (.int (onInts m n)) := by
        simp only [arithmetic, left, right]
      rw [done]
      refine .result _ taken divisor ?_ short
      rintro ⟨divides | ⟨-, mixed⟩, -⟩
      next => exact noDivision divides
      next => exact mixed (iff_of_false (type_of_int v m left) (type_of_int w n right))
    | real y =>
      simp only [arithmetic, left, right]
      exact outcome_onReals op onReals v w _ _ left right taken divisor
        (converts (.inr (type_of_real w y right))) short
  | real x =>
    simp only [arithmetic, left, right]
    exact outcome_onReals op onReals v w _ _ left right taken divisor
      (converts (.inl (type_of_real v x left))) short

theorem outcome_div (v w : Value) : Outcome .div v w (div v w) := by
  by_cases numeric : Numeric v w
  case neg =>
    rw [div_of_not_numeric v w numeric]
    exact .refused numeric
  have taken : ¬ Refuses .div v w := fun h => h numeric
  have noRepetition : ¬ (BinaryOperator.div = .mul ∧ Overlong v w) := fun h => by cases h.1
  obtain ⟨a, left⟩ := (isNumber_iff v).mpr numeric.1
  obtain ⟨b, right⟩ := (isNumber_iff w).mpr numeric.2
  have zero := isZero_iff w b right
  simp only [div, left, right]
  split
  next isZero => exact .zeroDivisor taken rfl (zero.mp isZero)
  next notZero =>
    have divisor : ¬ (BinaryOperator.div = .div ∧ w.IsZero) := fun h => notZero (zero.mpr h.2)
    exact outcome_onReals .div Binary64.div v w a b left right taken divisor (fun _ => .inl rfl)
      noRepetition

theorem outcome_add (v w : Value) : Outcome .add v w (add v w) := by
  have joined (r : Value) (same : v.type = .str ∧ w.type = .str ∨ v.type = .list ∧ w.type = .list) :
      Outcome .add v w (.ok r) := by
    apply Outcome.result r
    next => exact fun h => h (.inr same)
    next => simp
    next =>
      rintro ⟨none | ⟨-, mixed⟩, -⟩
      next => cases none
      next => rcases same with ⟨left, right⟩ | ⟨left, right⟩ <;> simp [left, right] at mixed
    next => simp
  unfold add
  split
  next s t => exact joined _ (.inl ⟨rfl, rfl⟩)
  next xs ys => exact joined _ (.inr ⟨rfl, rfl⟩)
  next texts lists =>
    have apart : ¬ (v.type = .str ∧ w.type = .str ∨ v.type = .list ∧ w.type = .list) := by
      rintro (⟨left, right⟩ | ⟨left, right⟩)
      next =>
        obtain ⟨⟨s, rfl⟩, t, rfl⟩ := And.intro (exists_text v left) (exists_text w right)
        exact texts s t rfl rfl
      next =>
        obtain ⟨⟨xs, rfl⟩, ys, rfl⟩ := And.intro (exists_list v left) (exists_list w right)
        exact lists xs ys rfl rfl
    apply outcome_arithmetic
    next => simp
    next => simp only [Refuses, Alike, apart, or_false]
    next => simp

theorem not_converts_of_repeats (v w : Value) (h : Repeats v w) : ¬ Converts .mul v w := by
  rintro (none | ⟨-, mixed⟩)
  next => cases none
  next =>
    apply mixed
    rcases h with ⟨left, right⟩ | ⟨left, right⟩
    all_goals
      apply iff_of_false <;> intro real <;>
        simp [real, ValueType.isSequence, ValueType.isCount] at left right

theorem Repetition.repeats (v w : Value) (s : Sequence) (n : Int) (h : Repetition v w s n) :
    Repeats v w := by
  rcases h with ⟨left, right⟩ | ⟨left, right⟩
  next => exact .inl ⟨(exists_sequence_iff v).mp ⟨s, left⟩, (exists_count?_iff w).mp ⟨n, right⟩⟩
  next => exact .inr ⟨(exists_count?_iff v).mp ⟨n, left⟩, (exists_sequence_iff w).mp ⟨s, right⟩⟩

theorem exists_repetition (v w : Value) (h : Repeats v w) : ∃ s n, Repetition v w s n := by
  rcases h with ⟨left, right⟩ | ⟨left, right⟩
  next =>
    obtain ⟨s, rfl⟩ := (exists_sequence_iff v).mpr left
    obtain ⟨n, counts⟩ := (exists_count?_iff w).mpr right
    exact ⟨s, n, .inl ⟨rfl, counts⟩⟩
  next =>
    obtain ⟨n, counts⟩ := (exists_count?_iff v).mpr left
    obtain ⟨s, rfl⟩ := (exists_sequence_iff w).mpr right
    exact ⟨s, n, .inr ⟨counts, rfl⟩⟩

theorem Repetition.unique (v w : Value) (s t : Sequence) (m n : Int) (h : Repetition v w s m)
    (h' : Repetition v w t n) : s = t ∧ m = n := by
  have uncounted (s : Sequence) (n : Int) : s.value.count? ≠ some n := by
    cases s <;> simp [count?, Sequence.value]
  have injective (s t : Sequence) (h : s.value = t.value) : s = t := by
    cases s <;> cases t <;> cases h <;> rfl
  rcases h with ⟨rfl, counts⟩ | ⟨counts, rfl⟩ <;> rcases h' with ⟨same, counts'⟩ | ⟨counts', same⟩
  next => exact ⟨injective s t same, Option.some.inj (counts.symm.trans counts')⟩
  next => exact absurd counts' (uncounted s n)
  next => exact absurd counts' (uncounted s n)
  next => exact ⟨injective s t same, Option.some.inj (counts.symm.trans counts')⟩

theorem Repetition.overlong_iff (v w : Value) (s : Sequence) (n : Int) (h : Repetition v w s n) :
    Overlong v w ↔ 0 < n ∧ repeatLimit < s.extent * n := by
  constructor
  next =>
    rintro ⟨t, m, other, long⟩
    obtain ⟨rfl, rfl⟩ := h.unique v w s t n m other
    exact long
  next => exact fun long => ⟨s, n, h, long⟩

theorem mul_of_repetition (v w : Value) (s : Sequence) (n : Int) (h : Repetition v w s n) :
    mul v w = s.repeated n := by
  rcases h with ⟨rfl, counts⟩ | ⟨counts, rfl⟩
  next => exact (s.mul_eq_repeated w n counts).1
  next => exact (s.mul_eq_repeated v n counts).2

theorem mul_of_uncounted (s : Sequence) (w : Value) (h : w.count? = Option.none) :
    mul s.value w = unsupported .mul s.value w ∧ mul w s.value = unsupported .mul w s.value := by
  cases s <;> cases w <;> cases h <;> exact ⟨rfl, rfl⟩

theorem count?_of_not_isCount (v : Value) (h : ¬ v.type.isCount = true) : v.count? = Option.none := by
  rw [← exists_count?_iff] at h
  cases counts : v.count? with
  | none => rfl
  | some n => exact absurd ⟨n, counts⟩ h

theorem mul_of_not_repeats (v w : Value) (repeats : ¬ Repeats v w)
    (sequence : v.type.isSequence = true ∨ w.type.isSequence = true) :
    mul v w = unsupported .mul v w := by
  rcases sequence with left | right
  next =>
    have uncounted := count?_of_not_isCount w fun counts => repeats (.inl ⟨left, counts⟩)
    obtain ⟨s, rfl⟩ := (exists_sequence_iff v).mpr left
    exact (mul_of_uncounted s w uncounted).1
  next =>
    have uncounted := count?_of_not_isCount v fun counts => repeats (.inr ⟨counts, right⟩)
    obtain ⟨s, rfl⟩ := (exists_sequence_iff w).mpr right
    exact (mul_of_uncounted s v uncounted).2

theorem mul_of_no_sequence (v w : Value)
    (plain : ¬ (v.type.isSequence = true ∨ w.type.isSequence = true)) :
    mul v w = arithmetic .mul (· * ·) Binary64.mul v w := by
  unfold mul
  split
  next => exact absurd (.inl rfl) plain
  next => exact absurd (.inr rfl) plain
  next => exact absurd (.inl rfl) plain
  next => exact absurd (.inr rfl) plain
  next => rfl

theorem outcome_mul (v w : Value) : Outcome .mul v w (mul v w) := by
  by_cases repeats : Repeats v w
  next =>
    obtain ⟨s, n, pair⟩ := exists_repetition v w repeats
    have taken : ¬ Refuses .mul v w := fun h => h (.inr repeats)
    have fits : ¬ (Converts .mul v w ∧ (v.TooLarge ∨ w.TooLarge)) :=
      fun h => not_converts_of_repeats v w repeats h.1
    have overlong := pair.overlong_iff v w s n
    rw [mul_of_repetition v w s n pair]
    by_cases long : 0 < n ∧ repeatLimit < s.extent * n
    next =>
      rw [s.repeated_of_long n long.1 long.2]
      exact .tooLong taken fits rfl (overlong.mpr long)
    next =>
      rw [s.repeated_of_short n long]
      exact .result _ taken (by simp) fits fun h => long (overlong.mp h.2)
  by_cases sequence : v.type.isSequence = true ∨ w.type.isSequence = true
  next =>
    have numeric : ¬ Numeric v w := by
      rintro ⟨left, right⟩
      rcases sequence with first | second
      next => simp [ValueType.isNumeric_of_isSequence _ first] at left
      next => simp [ValueType.isNumeric_of_isSequence _ second] at right
    rw [mul_of_not_repeats v w repeats sequence]
    exact .refused fun h => h.elim numeric repeats
  next =>
    rw [mul_of_no_sequence v w sequence]
    apply outcome_arithmetic
    next => simp
    next => simp only [Refuses, repeats, or_false]
    next =>
      rintro ⟨-, s, n, pair, -⟩
      exact repeats (pair.repeats v w s n)

theorem outcome_binary (op : BinaryOperator) (v w : Value) : Outcome op v w (binary op v w) := by
  have always (r : Value) (h : op = .and ∨ op = .or ∨ op = .equal ∨ op = .notEqual) :
      Outcome op v w (.ok r) := by
    rcases h with rfl | rfl | rfl | rfl <;>
      exact .result r id (by simp) (by simp [Converts]) (by simp)
  cases op with
  | add => exact outcome_add v w
  | sub => exact outcome_arithmetic .sub _ _ v w (by simp) Iff.rfl (by simp)
  | mul => exact outcome_mul v w
  | div => exact outcome_div v w
  | and | or | equal | notEqual => exact always _ (by simp)
  | less | greater | lessEqual | greaterEqual => exact outcome_ordering _ _ v w (by simp)

namespace Outcome

variable {op : BinaryOperator} {v w : Value} {result : Except OperatorError Value}

theorem unsupported_iff (h : Outcome op v w result) (named : BinaryOperator)
    (left right : ValueType) :
    result = .error (.unsupportedOperands named left right) ↔
      Refuses op v w ∧ named = op ∧ left = v.type ∧ right = w.type := by
  cases h with
  | refused h => simp [h, eq_comm]
  | zeroDivisor taken => simp [taken]
  | tooLarge taken => simp [taken]
  | tooLong taken => simp [taken]
  | result r taken => simp [taken]

theorem divisionByZero_iff (h : Outcome op v w result) :
    result = .error .divisionByZero ↔ op = .div ∧ Numeric v w ∧ w.IsZero := by
  cases h with
  | refused h =>
    simp only [Except.error.injEq, reduceCtorEq, false_iff]
    rintro ⟨rfl, numeric, -⟩
    exact h numeric
  | zeroDivisor taken divides zero =>
    subst divides
    exact iff_of_true rfl ⟨rfl, not_not.mp taken, zero⟩
  | tooLarge taken divisor => simpa using fun divides _ zero => divisor ⟨divides, zero⟩
  | tooLong taken fits repeats => simp [repeats]
  | result r taken divisor => simpa using fun divides _ zero => divisor ⟨divides, zero⟩

theorem intTooLarge_iff (h : Outcome op v w result) :
    result = .error .intTooLarge ↔ ¬ Refuses op v w ∧ ¬ (op = .div ∧ w.IsZero) ∧
      Converts op v w ∧ (v.TooLarge ∨ w.TooLarge) := by
  cases h with
  | refused h => simp [h]
  | zeroDivisor taken divides zero => simp [divides, zero]
  | tooLarge taken divisor converts large => exact iff_of_true rfl ⟨taken, divisor, converts, large⟩
  | tooLong taken fits =>
    simp only [Except.error.injEq, reduceCtorEq, false_iff]
    exact fun h => fits h.2.2
  | result r taken divisor fits =>
    simp only [reduceCtorEq, false_iff]
    exact fun h => fits h.2.2

theorem repeatTooLarge_iff (h : Outcome op v w result) (limit : Nat) :
    result = .error (.repeatTooLarge limit) ↔ op = .mul ∧ Overlong v w ∧ limit = repeatLimit := by
  have repeats (long : Overlong v w) : Repeats v w := by
    obtain ⟨s, n, pair, -⟩ := long
    exact pair.repeats v w s n
  cases h with
  | refused h =>
    simp only [Except.error.injEq, reduceCtorEq, false_iff]
    rintro ⟨rfl, long, -⟩
    exact h (.inr (repeats long))
  | zeroDivisor taken divides => simp [divides]
  | tooLarge taken divisor converts =>
    simp only [Except.error.injEq, reduceCtorEq, false_iff]
    rintro ⟨rfl, long, -⟩
    exact not_converts_of_repeats v w (repeats long) converts
  | tooLong taken fits multiplies long => simp [multiplies, long, eq_comm]
  | result r taken divisor fits short =>
    simp only [reduceCtorEq, false_iff]
    exact fun h => short ⟨h.1, h.2.1⟩

end Outcome

theorem operators_fail_exactly (op : BinaryOperator) (v w : Value) :
    ((∃ r, binary .and v w = .ok r) ∧ (∃ r, binary .or v w = .ok r) ∧
      (∃ r, binary .equal v w = .ok r) ∧ ∃ r, binary .notEqual v w = .ok r) ∧
    (∀ named left right, binary op v w = .error (.unsupportedOperands named left right) ↔
      Refuses op v w ∧ named = op ∧ left = v.type ∧ right = w.type) ∧
    (binary op v w = .error .divisionByZero ↔ op = .div ∧ Numeric v w ∧ w.IsZero) ∧
    (binary op v w = .error .intTooLarge ↔
      ¬ Refuses op v w ∧ ¬ (op = .div ∧ w.IsZero) ∧ Converts op v w ∧ (v.TooLarge ∨ w.TooLarge)) ∧
    (∀ limit, binary op v w = .error (.repeatTooLarge limit) ↔
      op = .mul ∧ Overlong v w ∧ limit = repeatLimit) ∧
    ((∃ r, binary op v w = .ok r) ∨
      ∃ e ∈ [.unsupportedOperands op v.type w.type, .divisionByZero, .intTooLarge,
        .repeatTooLarge repeatLimit], binary op v w = .error e) ∧
    ∀ n, (Binary64.ofInt n).isFinite = false ↔ Binary64.overflowBound ≤ n.natAbs := by
  have outcome := outcome_binary op v w
  refine ⟨⟨⟨_, rfl⟩, ⟨_, rfl⟩, ⟨_, rfl⟩, ⟨_, rfl⟩⟩, outcome.unsupported_iff, outcome.divisionByZero_iff,
    outcome.intTooLarge_iff, outcome.repeatTooLarge_iff, ?_, ?_⟩
  next =>
    generalize binary op v w = result at outcome
    cases outcome <;> simp
  next =>
    intro n
    rw [← Bool.not_eq_true, Binary64.isFinite_ofInt, Nat.not_lt]

-- The second items are the first unequal ones, and the message is about the lists.
example : binary .less (.list [.int 1, .none]) (.list [.bool true, .str ""]) =
    .error (.unsupportedOperands .less .list .list) := rfl

end Value

end TableScript
