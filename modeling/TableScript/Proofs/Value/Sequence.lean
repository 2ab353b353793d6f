import TableScript.Value.Operation

set_option autoImplicit false

namespace TableScript

inductive Sequence where
  | text (s : String)
  | items (xs : List Value)

namespace Sequence

def value : Sequence → Value
  | .text s => .str s
  | .items xs => .list xs

/-- What a sequence takes up: a text its bytes, a list its items. -/
def extent : Sequence → Nat
  | .text s => s.utf8ByteSize
  | .items xs => xs.length

def times (k : Nat) : Sequence → Sequence
  | .text s => .text (String.join (List.replicate k s))
  | .items xs => .items (List.replicate k xs).flatten

def size : Sequence → Nat
  | .text s => s.length
  | .items xs => xs.length

def parts : Sequence → List Value
  | .text s => s.toList.map fun c => .str (String.singleton c)
  | .items xs => xs

theorem extent_times (s : Sequence) (k : Nat) : (s.times k).extent = s.extent * k := by
  cases s with
  | text s =>
    induction k with
    | zero => rfl
    | succ k ih =>
      simp only [times, extent] at ih
      simp only [times, extent, List.replicate_succ, String.join_cons, String.utf8ByteSize_append, ih]
      rw [Nat.mul_succ, Nat.add_comm]
  | items xs => simp [times, extent, Nat.mul_comm]

theorem times_of_extent_eq_zero (s : Sequence) (k : Nat) (empty : s.extent = 0) :
    s.times k = s.times 0 := by
  cases s with
  | text s =>
    obtain rfl := String.utf8ByteSize_eq_zero_iff.mp empty
    exact congrArg text (String.toList_inj.mp (by simp [String.toList_join]))
  | items xs =>
    obtain rfl := List.length_eq_zero_iff.mp empty
    simp [times]

@[simp] theorem length_parts (s : Sequence) : s.parts.length = s.size := by
  cases s with
  | text s => rw [parts, List.length_map, String.length_toList, size]
  | items xs => rfl

end Sequence

namespace Value

theorem repeatLimit_lt_bound : repeatLimit < Word.bound := by decide

theorem withinLimit_iff (length k : Nat) :
    withinLimit length k = true ↔ length * k ≤ repeatLimit := by
  have room := repeatLimit_lt_bound
  rw [withinLimit, Option.any_eq_true]
  constructor
  next =>
    rintro ⟨p, product, short⟩
    obtain ⟨rfl, -⟩ := (Word.product?_eq_some_iff _ _ p).mp product
    exact of_decide_eq_true short
  next =>
    intro short
    exact ⟨length * k, (Word.product?_eq_some_iff _ _ _).mpr ⟨rfl, by omega⟩, decide_eq_true short⟩

theorem copies_of_short (length : Nat) (n : Int) (short : ¬ (0 < n ∧ repeatLimit < length * n)) :
    copies length n = .ok (if length = 0 then 0 else n.toNat) := by
  by_cases none : n < 0 ∨ length = 0
  next =>
    rw [copies, if_pos none]
    rcases none with negative | empty
    next => rw [Int.toNat_of_nonpos (Int.le_of_lt negative), ite_self]
    next => rw [if_pos empty]
  next =>
    obtain ⟨k, rfl⟩ := Int.eq_ofNat_of_zero_le (by omega : 0 ≤ n)
    have positive : 0 < length := by omega
    have fits : length * k ≤ repeatLimit := by
      rcases Nat.eq_zero_or_pos k with rfl | some
      next => exact Nat.zero_le _
      next =>
        apply Nat.le_of_not_lt
        intro long
        exact short ⟨by exact_mod_cast some, by exact_mod_cast long⟩
    -- the number is no larger than the product, so it is a word as well
    have word : Word.ofInt? k = some k := by
      have := Nat.le_mul_of_pos_left k positive
      have := repeatLimit_lt_bound
      exact (Word.ofInt?_eq_some_iff _ k).mpr ⟨rfl, by omega⟩
    rw [copies, if_neg none, word, Option.filter_some, if_pos ((withinLimit_iff _ _).mpr fits),
      if_neg (Nat.ne_of_gt positive)]
    rfl

theorem copies_of_long (length : Nat) (n : Int) (positive : 0 < n)
    (long : repeatLimit < length * n) :
    copies length n = .error (.repeatTooLarge repeatLimit) := by
  have some : ¬ (n < 0 ∨ length = 0) := by
    rintro (negative | rfl) <;> omega
  have none : (Word.ofInt? n).filter (withinLimit length) = Option.none := by
    rw [Option.filter_eq_none_iff]
    intro k word within
    obtain ⟨rfl, -⟩ := (Word.ofInt?_eq_some_iff n k).mp word
    have short := (withinLimit_iff length k).mp within
    have : (length * k : Int) ≤ repeatLimit := by exact_mod_cast short
    omega
  rw [copies, if_neg some, none]

theorem copies_are_words (length : Nat) (n : Int) (k : Nat) (h : copies length n = .ok k) :
    k < Word.bound ∧ length * k < Word.bound := by
  have room := repeatLimit_lt_bound
  unfold copies at h
  split at h
  next none =>
    cases h
    omega
  next some =>
    split at h
    next found =>
      cases h
      obtain ⟨word, within⟩ := Option.filter_eq_some_iff.mp found
      have short := (withinLimit_iff length k).mp within
      exact ⟨((Word.ofInt?_eq_some_iff n k).mp word).2, by omega⟩
    next => cases h

theorem position?_eq_some_iff (length : Nat) (i : Int) (p : Fin length) :
    position? length i = some p ↔ i = p ∨ i = p - length := by
  have inside := p.isLt
  simp only [position?]
  split <;> split <;> simp only [Option.some.injEq, Fin.ext_iff, reduceCtorEq, false_iff] <;> omega

theorem position?_eq_none_iff (length : Nat) (i : Int) :
    position? length i = Option.none ↔ ¬ (-length ≤ i ∧ i < length) := by
  simp only [position?]
  split <;> split <;> simp only [reduceCtorEq, false_iff, true_iff] <;> omega

end Value

namespace Sequence

open Value

def repeated (n : Int) : Sequence → Except OperatorError Value
  | .text s => repeatText s n
  | .items xs => repeatItems xs n

theorem mul_eq_repeated (s : Sequence) (count : Value) (n : Int) (h : count.count? = some n) :
    binary .mul s.value count = s.repeated n ∧ binary .mul count s.value = s.repeated n := by
  cases s <;> cases count <;> cases h <;> exact ⟨rfl, rfl⟩

theorem repeated_eq (s : Sequence) (n : Int) :
    s.repeated n = (copies s.extent n).map fun k => (s.times k).value := by
  cases s with
  | text s =>
    have same (k : Nat) : Text.repeated s k = String.join (List.replicate k s) := by
      rw [← String.toList_inj, Text.toList_repeated, String.toList_join, List.flatMap_def,
        List.map_replicate]
    simp only [repeated, repeatText, extent, times, value, same]
  | items xs => rfl

theorem repeated_of_short (s : Sequence) (n : Int) (short : ¬ (0 < n ∧ repeatLimit < s.extent * n)) :
    s.repeated n = .ok (s.times n.toNat).value := by
  rw [repeated_eq, copies_of_short _ n short]
  by_cases empty : s.extent = 0
  next => rw [if_pos empty, s.times_of_extent_eq_zero n.toNat empty]; rfl
  next => rw [if_neg empty]; rfl

theorem repeated_of_long (s : Sequence) (n : Int) (positive : 0 < n)
    (long : repeatLimit < s.extent * n) :
    s.repeated n = .error (.repeatTooLarge repeatLimit) := by
  rw [repeated_eq, copies_of_long _ n positive long]
  rfl

theorem repetition_exact_to_limit (s : Sequence) (count : Value) (n : Int)
    (whole : count.count? = some n) :
    binary .mul s.value count = binary .mul count s.value ∧
    (binary .mul s.value count = .error (.repeatTooLarge repeatLimit) ↔
      0 < n ∧ repeatLimit < s.extent * n) ∧
    (¬ (0 < n ∧ repeatLimit < s.extent * n) →
      binary .mul s.value count = .ok (s.times (max n 0).toNat).value) ∧
    ∀ k, copies s.extent n = .ok k →
      k < Word.bound ∧ Word.product? s.extent k = some (s.times k).extent := by
  obtain ⟨left, right⟩ := s.mul_eq_repeated count n whole
  have copied : (max n 0).toNat = n.toNat := by omega
  rw [left, right, copied]
  refine ⟨rfl, ⟨fun failed => ?_, fun long => s.repeated_of_long n long.1 long.2⟩,
    s.repeated_of_short n, fun k counted => ?_⟩
  next =>
    apply Decidable.byContradiction
    intro short
    rw [s.repeated_of_short n short] at failed
    cases failed
  next =>
    obtain ⟨word, product⟩ := copies_are_words s.extent n k counted
    exact ⟨word, (Word.product?_eq_some_iff _ _ _).mpr ⟨s.extent_times k, product⟩⟩

theorem repetition_exact_to_limit_twoBytes :
    (Value.int 536870912).count? = some 536870912 ∧ (Value.int 536870913).count? = some 536870913 ∧
      binary .mul (.str "é") (.int 536870912) = .ok ((text "é").times 536870912).value ∧
      binary .mul (.int 536870913) (.str "é") = .error (.repeatTooLarge repeatLimit) := by
  have within : (Value.int 536870912).count? = some 536870912 := rfl
  have beyond : (Value.int 536870913).count? = some 536870913 := rfl
  have bytes : (text "é").extent = 2 := by decide
  obtain ⟨-, -, succeeds, -⟩ := repetition_exact_to_limit (text "é") _ _ within
  obtain ⟨same, fails, -, -⟩ := repetition_exact_to_limit (text "é") _ _ beyond
  refine ⟨within, beyond, succeeds ?_, same.symm.trans (fails.mpr ?_)⟩
  next =>
    rw [bytes]
    decide
  next =>
    rw [bytes]
    decide

theorem character_eq (s : String) (p : Fin s.length) (inside : p.val < (text s).parts.length) :
    character s p = (text s).parts.get ⟨p, inside⟩ := by
  have within : p.val < s.toList.length := by rw [String.length_toList]; exact p.isLt
  rw [character, List.getElem?_eq_getElem within]
  simp [parts]

theorem subscript_eq (s : Sequence) (index : Value) :
    subscript s.value index =
      (position s.value.type s.size index).map fun p => s.parts.get (p.cast s.length_parts.symm) := by
  cases s with
  | text s =>
    have same (p : Fin s.length) :
        character s p.val = (text s).parts.get (p.cast (length_parts _).symm) := character_eq s p _
    exact congrArg (Except.map · (position .str s.length index)) (funext same)
  | items xs => rfl

theorem position_eq_ok_iff (container : ValueType) (length : Nat) (index : Value) (i : Int)
    (whole : index.count? = some i) (p : Fin length) :
    position container length index = .ok p ↔ i = p ∨ i = p - length := by
  rw [← position?_eq_some_iff]
  simp only [position, whole]
  cases position? length i <;> simp

theorem position_eq_error_iff (container : ValueType) (length : Nat) (index : Value) (i : Int)
    (whole : index.count? = some i) (fault : IndexFault) :
    position container length index = .error fault ↔
      ¬ (-length ≤ i ∧ i < length) ∧ fault = .outOfRange container i length := by
  rw [← position?_eq_none_iff]
  simp only [position, whole]
  cases position? length i <;> simp [eq_comm]

theorem subscript_eq_ok_iff (s : Sequence) (index : Value) (i : Int)
    (whole : index.count? = some i) (v : Value) :
    subscript s.value index = .ok v ↔
      ∃ p : Nat, s.parts[p]? = some v ∧ (i = p ∨ i = p - s.size) := by
  rw [subscript_eq]
  constructor
  next =>
    intro h
    cases found : position s.value.type s.size index with
    | error fault =>
      rw [found] at h
      cases h
    | ok p =>
      rw [found] at h
      cases h
      refine ⟨p, ?_, (position_eq_ok_iff _ _ index i whole p).mp found⟩
      exact List.getElem?_eq_getElem (p.cast s.length_parts.symm).isLt
  next =>
    rintro ⟨p, here, named⟩
    obtain ⟨inside, rfl⟩ := List.getElem?_eq_some_iff.mp here
    have within : p < s.size := by rwa [length_parts] at inside
    rw [(position_eq_ok_iff _ _ index i whole ⟨p, within⟩).mpr named]
    rfl

theorem subscript_eq_error_iff (s : Sequence) (index : Value) (i : Int)
    (whole : index.count? = some i) (fault : IndexFault) :
    subscript s.value index = .error fault ↔
      ¬ (-s.size ≤ i ∧ i < s.size) ∧ fault = .outOfRange s.value.type i s.size := by
  rw [subscript_eq, ← position_eq_error_iff _ _ index i whole]
  cases position s.value.type s.size index <;> simp [Except.map]

theorem exists_joined (s t : Sequence) (same : t.value.type = s.value.type) :
    ∃ joined : Sequence, binary .add s.value t.value = .ok joined.value ∧
      joined.parts = s.parts ++ t.parts := by
  cases s <;> cases t <;> cases same
  case text.text.refl a b => exact ⟨text (a ++ b), rfl, by simp [parts]⟩
  case items.items.refl xs ys => exact ⟨items (xs ++ ys), rfl, rfl⟩

theorem subscript_joined (s t joined : Sequence) (parts : joined.parts = s.parts ++ t.parts)
    (k : Nat) (inside : k < s.size + t.size) :
    subscript joined.value (.int k) =
      if k < s.size then subscript s.value (.int k) else subscript t.value (.int (k - s.size)) := by
  have length := congrArg List.length parts
  rw [List.length_append, length_parts, length_parts, length_parts] at length
  have inside' : k < joined.parts.length := by rwa [length_parts, length]
  have whole := (joined.subscript_eq_ok_iff (.int k) k rfl (joined.parts[k])).mpr
    ⟨k, List.getElem?_eq_getElem inside', .inl rfl⟩
  rw [whole]
  have found : (s.parts ++ t.parts)[k]? = some joined.parts[k] := by
    rw [← parts, List.getElem?_eq_getElem inside']
  split
  next front =>
    rw [List.getElem?_append_left (by rwa [length_parts])] at found
    exact ((s.subscript_eq_ok_iff (.int k) k rfl _).mpr ⟨k, found, .inl rfl⟩).symm
  next behind =>
    rw [List.getElem?_append_right (by rw [length_parts]; omega), length_parts] at found
    have moved : (k - s.size : Int) = (k - s.size : Nat) := by omega
    exact ((t.subscript_eq_ok_iff _ _ rfl _).mpr ⟨k - s.size, found, .inl moved⟩).symm

theorem positions_name_parts (s : Sequence) (index : Value) (i : Int)
    (whole : index.count? = some i) :
    ((∃ v, subscript s.value index = .ok v) ↔ -s.size ≤ i ∧ i < s.size) ∧
    (∀ v, subscript s.value index = .ok v ↔
      ∃ p : Nat, p = (if 0 ≤ i then i else s.size + i) ∧ s.parts[p]? = some v) ∧
    (∀ fault, subscript s.value index = .error fault ↔
      ¬ (-s.size ≤ i ∧ i < s.size) ∧ fault = .outOfRange s.value.type i s.size) ∧
    (∀ characters, s = text characters → subscript s.value index ≠ .ok .none) ∧
    ∀ t : Sequence, t.value.type = s.value.type →
      ∃ joined, binary .add s.value t.value = .ok joined ∧ ∀ k : Nat, k < s.size + t.size →
        subscript joined (.int k) =
          if k < s.size then subscript s.value (.int k)
          else subscript t.value (.int (k - s.size)) := by
  have resolved (p : Nat) (v : Value) (here : s.parts[p]? = some v) :
      i = p ∨ i = p - s.size ↔ (p : Int) = if 0 ≤ i then i else s.size + i := by
    obtain ⟨inside, -⟩ := List.getElem?_eq_some_iff.mp here
    rw [length_parts] at inside
    split <;> omega
  have found := s.subscript_eq_ok_iff index i whole
  refine ⟨⟨?_, ?_⟩, ?_, s.subscript_eq_error_iff index i whole, ?_, ?_⟩
  next =>
    rintro ⟨v, read⟩
    apply Decidable.byContradiction
    intro outside
    rw [(s.subscript_eq_error_iff index i whole _).mpr ⟨outside, rfl⟩] at read
    cases read
  next =>
    intro inside
    cases read : subscript s.value index with
    | ok v => exact ⟨v, rfl⟩
    | error fault => exact absurd inside ((s.subscript_eq_error_iff index i whole fault).mp read).1
  next =>
    intro v
    rw [found]
    constructor
    next => exact fun ⟨p, here, named⟩ => ⟨p, (resolved p v here).mp named, here⟩
    next => exact fun ⟨p, named, here⟩ => ⟨p, here, (resolved p v here).mpr named⟩
  next =>
    rintro characters rfl read
    obtain ⟨p, here, -⟩ := (found .none).mp read
    simp [parts] at here
  next =>
    intro t same
    obtain ⟨joined, added, parts⟩ := s.exists_joined t same
    exact ⟨joined.value, added, s.subscript_joined t joined parts⟩

theorem positions_name_parts_fromEnd :
    (Value.int (-2)).count? = some (-2) ∧ (text "x").value.type = (text "é😀").value.type ∧
      subscript (.str "é😀") (.int (-2)) = .ok (.str "é") ∧
      ∃ joined, binary .add (.str "é😀") (.str "x") = .ok joined ∧
        subscript joined (.int 2) = subscript (.str "x") (.int 0) := by
  have whole : (Value.int (-2)).count? = some (-2) := rfl
  have same : (text "x").value.type = (text "é😀").value.type := rfl
  obtain ⟨-, read, -, -, joins⟩ := positions_name_parts (text "é😀") (.int (-2)) (-2) whole
  obtain ⟨joined, added, place⟩ := joins (text "x") same
  exact ⟨whole, same, (read _).mpr ⟨0, rfl, rfl⟩, joined, added, place 2 (by decide)⟩

end Sequence

end TableScript
