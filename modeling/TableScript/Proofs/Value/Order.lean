import TableScript.Proofs.Value.Equality
import TableScript.Proofs.Value.Exact

set_option autoImplicit false

namespace TableScript

namespace Verdict

def swap : Verdict → Verdict
  | .ordered o => .ordered o.swap
  | .unordered => .unordered
  | .incomparable => .incomparable

def answer (holds : Ordering → Bool) : Verdict → Option Bool
  | .ordered o => some (holds o)
  | .unordered => some false
  | .incomparable => none

end Verdict

namespace Value

inductive Scale where
  | number
  | text
  | list
deriving DecidableEq

def scale? : Value → Option Scale
  | .bool _ | .int _ | .real _ => some .number
  | .str _ => some .text
  | .list _ => some .list
  | .none | .dict _ => Option.none

def Apart (a b : Value) : Prop := a.scale? ≠ b.scale? ∨ a.scale? = Option.none

theorem Apart.symm (a b : Value) (h : a.Apart b) : b.Apart a := by
  unfold Apart at *
  grind

theorem Apart.compare (a b : Value) (h : a.Apart b) : a.compare b = .incomparable := by
  cases a <;> cases b <;> first | rfl | simp [Apart, scale?] at h

theorem scale?_of_equal (a b : Value) (h : a.equal b = true) : a.scale? = b.scale? := by
  cases a <;> cases b <;> first | rfl | simp [equal, sameNumber, number?] at h

theorem compare_cases (a b : Value) :
    (∃ s t, a = .str s ∧ b = .str t) ∨ (∃ xs ys, a = .list xs ∧ b = .list ys) ∨
      (a.IsNumber ∧ b.IsNumber) ∨ a.Apart b := by
  cases a <;> cases b <;> simp [IsNumber, number?, Apart, scale?]

@[elab_as_elim] theorem comparison_induction {motive : Value → Value → Prop}
    (texts : ∀ s t, motive (.str s) (.str t))
    (lists : ∀ xs ys, (∀ x ∈ xs, ∀ y, motive x y) → motive (.list xs) (.list ys))
    (numbers : ∀ a b, a.IsNumber → b.IsNumber → motive a b)
    (apart : ∀ a b, a.Apart b → motive a b) (a b : Value) : motive a b := by
  induction a using induction generalizing b with
  | list xs ih =>
    rcases compare_cases (.list xs) b with ⟨_, _, shape, -⟩ | ⟨_, ys, shape, rfl⟩ | ⟨⟨_, none⟩, -⟩ | none
    next => cases shape
    next =>
      cases shape
      exact lists xs ys ih
    next => cases none
    next => exact apart _ b none
  | none => exact apart _ b (.inr rfl)
  | dict d => exact apart _ b (.inr rfl)
  | key k =>
    rcases compare_cases (ofKey k) b with ⟨_, _, shape, rfl⟩ | ⟨_, _, shape, -⟩ | both | none
    next => exact shape ▸ texts _ _
    next => cases k <;> cases shape
    next => exact numbers _ b both.1 both.2
    next => exact apart _ b none

theorem compareItems_swap (xs ys : List Value)
    (members : ∀ x ∈ xs, ∀ y ∈ ys, (x.compare y).swap = y.compare x ∧ x.equal y = y.equal x) :
    (compareItems xs ys).swap = compareItems ys xs := by
  induction xs generalizing ys with
  | nil => cases ys <;> simp [compareItems, Verdict.swap, Nat.compare_swap]
  | cons x xs ih =>
    cases ys with
    | nil => simp [compareItems, Verdict.swap, Nat.compare_swap]
    | cons y ys =>
      obtain ⟨order, same⟩ := members x (by simp) y (by simp)
      have later := ih ys fun x' inside y' inside' =>
        members x' (by simp [inside]) y' (by simp [inside'])
      simp only [compareItems, same]
      split
      next => exact later
      next => exact order

theorem compare_swap (a b : Value) (left : a.Built) (right : b.Built) :
    (a.compare b).swap = b.compare a := by
  induction a, b using comparison_induction with
  | texts s t => simp only [compare, Verdict.swap, Std.OrientedOrd.eq_swap (a := t)]
  | lists xs ys ih =>
    simp only [compare]
    apply compareItems_swap
    intro x inside y inside'
    have built := left.list_parts xs x inside
    have built' := right.list_parts ys y inside'
    exact ⟨ih x inside y built built', equal_comm x y built built'⟩
  | numbers a b number number' =>
    rw [compare_of_isNumber a b number number', compare_of_isNumber b a number' number]
    cases a.amount? with
    | none => cases b.amount? <;> rfl
    | some p =>
      cases b.amount? with
      | none => rfl
      | some q => exact congrArg Verdict.ordered (cmp_swap p q)
  | apart a b h => rw [h.compare, (h.symm a b).compare, Verdict.swap]

theorem compareItems_of_equalItems (xs ys : List Value) (h : equalItems xs ys = true) :
    compareItems xs ys = .ordered .eq := by
  induction xs generalizing ys with
  | nil => cases ys <;> simp_all [equalItems, compareItems]
  | cons x xs ih => cases ys <;> simp_all [equalItems, compareItems]

theorem compare_of_equal (a b : Value) (h : a.equal b = true) :
    a.compare b = .ordered .eq ∨ a.compare b = .incomparable := by
  rcases compare_cases a b with ⟨s, t, rfl, rfl⟩ | ⟨xs, ys, rfl, rfl⟩ | ⟨left, right⟩ | apart
  next =>
    have same : s = t := by simpa [equal] using h
    rw [same, compare, Std.ReflOrd.compare_self]
    exact .inl rfl
  next =>
    rw [compare]
    exact .inl (compareItems_of_equalItems xs ys (by simpa [equal] using h))
  next =>
    obtain ⟨p, here, there⟩ := (equal_of_isNumber a b left right).mp h
    rw [compare_of_isNumber a b left right, here, there]
    exact .inl (congrArg Verdict.ordered (cmp_self_eq_eq p))
  next => exact .inr apart.compare

theorem equalItems_of_compareItems (xs ys : List Value)
    (members : ∀ x ∈ xs, ∀ y, x.compare y = .ordered .eq → x.equal y = true)
    (h : compareItems xs ys = .ordered .eq) : equalItems xs ys = true := by
  induction xs generalizing ys with
  | nil => cases ys <;> simp_all [equalItems, compareItems]
  | cons x xs ih =>
    cases ys with
    | nil => simp [compareItems] at h
    | cons y ys =>
      obtain ⟨first, later⟩ := List.forall_mem_cons.mp members
      rw [compareItems] at h
      split at h
      next same => simp [equalItems, same, ih ys later h]
      next other => exact absurd (first y h) other

theorem equal_of_compare (a b : Value) (h : a.compare b = .ordered .eq) : a.equal b = true := by
  induction a, b using comparison_induction with
  | texts s t => simpa [compare, equal] using h
  | lists xs ys ih =>
    simp only [compare, equal] at h ⊢
    exact equalItems_of_compareItems xs ys ih h
  | numbers a b number number' =>
    rw [compare_of_isNumber a b number number'] at h
    rw [equal_of_isNumber a b number number']
    split at h
    next p q here there =>
      have same : p = q := (cmp_eq_eq_iff p q).mp (Verdict.ordered.inj h)
      exact ⟨p, here, same ▸ there⟩
    next => cases h
  | apart a b apart => simp [apart.compare] at h

theorem isNumber_of_equal (a b : Value) (h : a.equal b = true) (number : a.IsNumber) :
    b.IsNumber ∧ a.amount? = b.amount? := by
  have right : b.IsNumber := by
    obtain ⟨_, number⟩ := number
    cases a <;> cases b <;> simp_all [IsNumber, number?, equal, sameNumber]
  obtain ⟨p, here, there⟩ := (equal_of_isNumber a b number right).mp h
  exact ⟨right, here.trans there.symm⟩

theorem equal_congr (a b c : Value) (first : a.Built) (second : b.Built) (third : c.Built)
    (h : a.equal b = true) : a.equal c = b.equal c :=
  Bool.eq_iff_iff.mpr
    ⟨equal_trans b a c first third (equal_symm a b first second h), equal_trans a b c second third h⟩

theorem compareItems_congr (xs ys zs : List Value) (same : equalItems xs ys = true)
    (first : ∀ x ∈ xs, x.Built) (second : ∀ y ∈ ys, y.Built) (third : ∀ z ∈ zs, z.Built)
    (members : ∀ x ∈ xs, ∀ z y, x.Built → z.Built → y.Built → x.equal y = true →
      x.compare z = y.compare z) :
    compareItems xs zs = compareItems ys zs := by
  induction xs generalizing ys zs with
  | nil => cases ys <;> simp_all [equalItems]
  | cons x xs ih =>
    cases ys with
    | nil => simp [equalItems] at same
    | cons y ys =>
      obtain ⟨here, later⟩ : x.equal y = true ∧ equalItems xs ys = true := by simpa [equalItems] using same
      cases zs with
      | nil =>
        have size := ((equalItems_iff xs ys).mp later).1
        simp [compareItems, size]
      | cons z zs =>
        rw [List.forall_mem_cons] at first second third members
        rw [compareItems, compareItems, equal_congr x y z first.1 second.1 third.1 here,
          members.1 z y first.1 third.1 second.1 here,
          ih ys zs later first.2 second.2 third.2 members.2]

theorem compare_congr (a c b : Value) (first : a.Built) (third : c.Built) (second : b.Built)
    (h : a.equal b = true) : a.compare c = b.compare c := by
  induction a, c using comparison_induction generalizing b with
  | texts s t =>
    obtain ⟨_ | _ | _ | u, rfl, same⟩ := (equal_ofKey_iff (.str s) b).mp h
    all_goals simp_all [Key.same, Key.number?, ofKey]
  | lists xs zs ih =>
    cases b with
    | list ys =>
      simp only [compare]
      exact compareItems_congr xs ys zs (by simpa [equal] using h) (first.list_parts xs)
        (second.list_parts ys) (third.list_parts zs) fun x inside z y => ih x inside z y
    | _ => cases h
  | numbers a c number number' =>
    obtain ⟨also, same⟩ := isNumber_of_equal a b h number
    rw [compare_of_isNumber a c number number', compare_of_isNumber b c also number', same]
  | apart a c apart =>
    have also : b.Apart c := by rwa [Apart, ← scale?_of_equal a b h]
    rw [apart.compare, also.compare]

theorem compare_congr_right (a b c : Value) (first : a.Built) (second : b.Built) (third : c.Built)
    (h : a.equal b = true) : c.compare a = c.compare b := by
  rw [← compare_swap a c first third, ← compare_swap b c second third,
    compare_congr a c b first third second h]

theorem not_equal_of_less (a b : Value) (h : a.compare b = .ordered .lt) : ¬ a.equal b = true := by
  intro same
  rcases compare_of_equal a b same with eq | none
  next => simp [h] at eq
  next => simp [h] at none

theorem compareItems_trans (xs ys zs : List Value)
    (first : ∀ x ∈ xs, x.Built) (second : ∀ y ∈ ys, y.Built) (third : ∀ z ∈ zs, z.Built)
    (members : ∀ x ∈ xs, ∀ y z, x.Built → y.Built → z.Built → x.compare y = .ordered .lt →
      y.compare z = .ordered .lt → x.compare z = .ordered .lt)
    (left : compareItems xs ys = .ordered .lt) (right : compareItems ys zs = .ordered .lt) :
    compareItems xs zs = .ordered .lt := by
  induction xs generalizing ys zs with
  | nil =>
    -- what stands above the empty list is longer, and so is what stands above that
    cases ys with
    | nil => simp [compareItems] at left
    | cons y ys =>
      cases zs with
      | nil => simp [compareItems, Nat.compare_eq_lt] at right
      | cons z zs => simp [compareItems, Nat.compare_eq_lt]
  | cons x xs ih =>
    cases ys with
    | nil => simp [compareItems, Nat.compare_eq_lt] at left
    | cons y ys =>
      cases zs with
      | nil => simp [compareItems, Nat.compare_eq_lt] at right
      | cons z zs =>
        rw [List.forall_mem_cons] at first second third members
        rw [compareItems] at left right ⊢
        by_cases here : x.equal y = true
        next =>
          -- `x` compares with `z` as `y` does
          rw [if_pos here] at left
          rw [equal_congr x y z first.1 second.1 third.1 here,
            compare_congr x z y first.1 third.1 second.1 here]
          split at right
          next there =>
            rw [if_pos there]
            exact ih ys zs first.2 second.2 third.2 members.2 left right
          next there =>
            rw [if_neg there]
            exact right
        next =>
          rw [if_neg here] at left
          have less : x.compare z = .ordered .lt := by
            by_cases there : y.equal z = true
            next => rw [← compare_congr_right y z x second.1 third.1 first.1 there, left]
            next =>
              rw [if_neg there] at right
              exact members.1 y z first.1 second.1 third.1 left right
          rw [if_neg (not_equal_of_less x z less)]
          exact less

theorem compare_eq_lt_iff (a b : Value) (left : a.IsNumber) (right : b.IsNumber) :
    a.compare b = .ordered .lt ↔ ∃ p q, a.amount? = some p ∧ b.amount? = some q ∧ p < q := by
  rw [compare_of_isNumber a b left right]
  cases a.amount? with
  | none => simp
  | some p =>
    cases b.amount? with
    | none => simp
    | some q =>
      rw [Verdict.ordered.injEq, cmp_eq_lt_iff]
      simp

theorem compare_trans (a b c : Value) (first : a.Built) (second : b.Built) (third : c.Built)
    (left : a.compare b = .ordered .lt) (right : b.compare c = .ordered .lt) :
    a.compare c = .ordered .lt := by
  induction a, b using comparison_induction generalizing c with
  | texts s t =>
    cases c with
    | str u =>
      simp only [compare, Verdict.ordered.injEq] at left right ⊢
      exact Std.TransCmp.lt_trans left right
    | _ => simp [compare, compareNumbers, number?] at right
  | lists xs ys ih =>
    cases c with
    | list zs =>
      simp only [compare] at left right ⊢
      exact compareItems_trans xs ys zs (first.list_parts xs) (second.list_parts ys)
        (third.list_parts zs) (fun x inside y z one two three => ih x inside y z one two three) left right
    | _ => simp [compare, compareNumbers, number?] at right
  | numbers a b number number' =>
    have last : c.IsNumber := by
      rcases compare_cases b c with ⟨_, _, rfl, -⟩ | ⟨_, _, rfl, -⟩ | ⟨-, last⟩ | apart
      next => simp [IsNumber, number?] at number'
      next => simp [IsNumber, number?] at number'
      next => exact last
      next => simp [apart.compare] at right
    obtain ⟨p, q, here, there, less⟩ := (compare_eq_lt_iff a b number number').mp left
    obtain ⟨q', r, there', beyond, less'⟩ := (compare_eq_lt_iff b c number' last).mp right
    obtain rfl : q = q' := Option.some.inj (there.symm.trans there')
    exact (compare_eq_lt_iff a c number last).mpr ⟨p, r, here, beyond, less.trans less'⟩
  | apart a b apart => simp [apart.compare] at left

def Agree (r s : Except OperatorError Value) : Prop :=
  (∃ holds, r = .ok (.bool holds) ∧ s = .ok (.bool holds)) ∨
    (∃ op left right, r = .error (.unsupportedOperands op left right)) ∧
      ∃ op left right, s = .error (.unsupportedOperands op left right)

theorem ordering_eq (op : BinaryOperator) (holds : Ordering → Bool) (a b : Value) :
    ordering op holds a b =
      match (a.compare b).answer holds with
      | some truth => .ok (.bool truth)
      | Option.none => unsupported op a b := by
  unfold ordering
  cases a.compare b <;> rfl

theorem agree_ordering (op op' : BinaryOperator) (holds holds' : Ordering → Bool) (a b c d : Value)
    (h : (a.compare b).answer holds = (c.compare d).answer holds') :
    Agree (ordering op holds a b) (ordering op' holds' c d) := by
  rw [ordering_eq, ordering_eq, h]
  cases (c.compare d).answer holds' with
  | some truth => exact .inl ⟨truth, rfl, rfl⟩
  | none => exact .inr ⟨⟨_, _, _, rfl⟩, _, _, _, rfl⟩

theorem agree_swapped (op op' : BinaryOperator) (holds holds' : Ordering → Bool) (a b : Value)
    (left : a.Built) (right : b.Built) (mirrored : ∀ o, holds' o.swap = holds o) :
    Agree (ordering op holds a b) (ordering op' holds' b a) := by
  apply agree_ordering
  rw [← compare_swap a b left right]
  cases a.compare b <;> simp [Verdict.answer, Verdict.swap, mirrored]

theorem less_iff (a b : Value) :
    binary .less a b = .ok (.bool true) ↔ a.compare b = .ordered .lt := by
  simp only [binary, ordering]
  cases a.compare b with
  | ordered o => cases o <;> simp
  | _ => simp [unsupported]

theorem equal_iff (a b : Value) : binary .equal a b = .ok (.bool true) ↔ a.equal b = true := by
  simp [binary]

theorem lessEqual_iff (a b : Value) (ordered : ∀ e, binary .lessEqual a b ≠ .error e) :
    binary .lessEqual a b = .ok (.bool true) ↔
      binary .less a b = .ok (.bool true) ∨ binary .equal a b = .ok (.bool true) := by
  have same := compare_of_equal a b
  have same' := equal_of_compare a b
  simp only [binary, ordering] at ordered ⊢
  cases order : a.compare b with
  | ordered o => cases o <;> simp_all
  | unordered => simp_all
  | incomparable => simp [order, unsupported] at ordered

theorem order_laws (a b c : Value) (first : a.Built) (second : b.Built) (third : c.Built) :
    Agree (binary .less a b) (binary .greater b a) ∧
    Agree (binary .lessEqual a b) (binary .greaterEqual b a) ∧
    ((∀ e, binary .lessEqual a b ≠ .error e) →
      (binary .lessEqual a b = .ok (.bool true) ↔
        binary .less a b = .ok (.bool true) ∨ binary .equal a b = .ok (.bool true))) ∧
    ¬ (binary .less a b = .ok (.bool true) ∧ binary .equal a b = .ok (.bool true)) ∧
    (binary .less a b = .ok (.bool true) → binary .less b c = .ok (.bool true) →
      binary .less a c = .ok (.bool true)) ∧
    (binary .equal a b = .ok (.bool true) →
      Agree (binary .less a c) (binary .less b c) ∧ Agree (binary .less c a) (binary .less c b)) := by
  refine ⟨?_, ?_, lessEqual_iff a b, ?_, ?_, ?_⟩
  next => exact agree_swapped _ _ _ _ a b first second fun o => by cases o <;> rfl
  next => exact agree_swapped _ _ _ _ a b first second fun o => by cases o <;> rfl
  next =>
    rintro ⟨less, same⟩
    exact not_equal_of_less a b ((less_iff a b).mp less) ((equal_iff a b).mp same)
  next =>
    simp only [less_iff]
    exact compare_trans a b c first second third
  next =>
    intro equal
    have same := (equal_iff a b).mp equal
    exact ⟨agree_ordering _ _ _ _ a c b c (by rw [compare_congr a c b first third second same]),
      agree_ordering _ _ _ _ c a c b (by rw [compare_congr_right a b c first second third same])⟩

theorem order_laws_unorderedTail :
    let a := Value.list [.bool true, .str "a", .real .nan]
    let b := Value.list [.int 1, .str "b"]
    let c := Value.list [.int 2, .none]
    (a.Built ∧ b.Built ∧ c.Built) ∧
      (binary .less a b = .ok (.bool true) ∧ binary .less b c = .ok (.bool true)) ∧
      binary .less a c = .ok (.bool true) := by
  intro a b c
  have first : a.Built := .list _ (by simp; exact ⟨.bool _, .str _, .real _⟩)
  have second : b.Built := .list _ (by simp; exact ⟨.int _, .str _⟩)
  have third : c.Built := .list _ (by simp; exact ⟨.int _, .none⟩)
  have less : binary .less a b = .ok (.bool true) := rfl
  have less' : binary .less b c = .ok (.bool true) := rfl
  obtain ⟨-, -, -, -, transitive, -⟩ := order_laws a b c first second third
  exact ⟨⟨first, second, third⟩, ⟨less, less'⟩, transitive less less'⟩

end Value

end TableScript
