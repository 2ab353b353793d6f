import TableScript.Dict
import TableScript.Proofs.Number

set_option autoImplicit false

namespace TableScript

namespace Key

inductive Worth where
  | place (p : Place)
  | text (s : String)
deriving DecidableEq, Repr

def worth? : Key → Option Worth
  | .bool b => some (.place (.ofInt b.toInt))
  | .int n => some (.place (.ofInt n))
  | .real x => x.place?.map .place
  | .str s => some (.text s)

@[simp] theorem worth?_eq_none_iff (k : Key) : k.worth? = none ↔ k = .real .nan := by
  cases k <;> simp [worth?]

theorem same_iff (k l : Key) : k.same l = true ↔ ∃ w, k.worth? = some w ∧ l.worth? = some w := by
  cases k <;> cases l <;> simp [same, number?, worth?, Number.same_iff, Number.place?]
  case str.str => exact eq_comm

theorem same_symm (k l : Key) (h : k.same l = true) : l.same k = true := by
  obtain ⟨w, left, right⟩ := (same_iff k l).mp h
  exact (same_iff l k).mpr ⟨w, right, left⟩

theorem same_comm (k l : Key) : k.same l = l.same k :=
  Bool.eq_iff_iff.mpr ⟨same_symm k l, same_symm l k⟩

theorem same_trans (k l m : Key) (left : k.same l = true) (right : l.same m = true) :
    k.same m = true := by
  obtain ⟨w, first, second⟩ := (same_iff k l).mp left
  obtain ⟨v, third, fourth⟩ := (same_iff l m).mp right
  have same : w = v := Option.some.inj (second.symm.trans third)
  exact (same_iff k m).mpr ⟨w, first, same ▸ fourth⟩

theorem same_congr (k l m : Key) (h : k.same l = true) : m.same k = m.same l :=
  Bool.eq_iff_iff.mpr
    ⟨fun same => same_trans m k l same h, fun same => same_trans m l k same (same_symm k l h)⟩

theorem same_self_iff (k : Key) : k.same k = true ↔ k ≠ .real .nan := by
  rw [same_iff, Ne, ← worth?_eq_none_iff]
  cases k.worth? <;> simp

theorem code_eq_whole (k : Key) (n : Int) (h : k.worth? = some (.place (.ofInt n))) :
    k.code = .whole n := by
  cases k with
  | bool b =>
    have same : Place.ofInt b.toInt = .ofInt n := by simpa [worth?] using h
    rw [code, Place.ofInt_injective _ _ same]
  | int m =>
    have same : Place.ofInt m = .ofInt n := by simpa [worth?] using h
    rw [code, Place.ofInt_injective _ _ same]
  | real x =>
    have place : x.place? = some (.ofInt n) := by simpa [worth?] using h
    simp [code, (Binary64.toInt?_eq_some_iff x n).mpr place]
  | str s => simp [worth?] at h

theorem eq_of_worth?_eq (k l : Key) (h : k.worth? = l.worth?)
    (broken : ∀ n, l.worth? ≠ some (.place (.ofInt n))) : k = l := by
  cases l with
  | bool b => exact absurd rfl (broken b.toInt)
  | int n => exact absurd rfl (broken n)
  | real y =>
    cases k with
    | bool b => exact absurd h.symm (broken b.toInt)
    | int n => exact absurd h.symm (broken n)
    | real x =>
      have place : x.place? = y.place? := Option.map_injective (fun _ _ => Worth.place.inj) h
      have fraction : x.toInt? = none := by
        rw [Option.eq_none_iff_forall_ne_some]
        intro n value
        apply broken n
        rw [← h, worth?, (Binary64.toInt?_eq_some_iff x n).mp value, Option.map_some]
      rw [Binary64.eq_of_place?_eq x y place fraction]
    | str s => cases place : y.place? <;> simp [worth?, place] at h
  | str t =>
    cases k with
    | real x => cases place : x.place? <;> simp [worth?, place] at h
    | str s => simpa [worth?] using h
    | _ => simp [worth?] at h

-- A key worth a whole number has the code of that number; no other worth belongs to two keys.
theorem code_eq_of_same (k l : Key) (h : k.same l = true) : k.code = l.code := by
  obtain ⟨w, left, right⟩ := (same_iff k l).mp h
  by_cases whole : ∃ n, w = .place (.ofInt n)
  next =>
    obtain ⟨n, rfl⟩ := whole
    rw [code_eq_whole k n left, code_eq_whole l n right]
  next =>
    have broken : ∀ n, l.worth? ≠ some (.place (.ofInt n)) := by
      intro n place
      exact whole ⟨n, Option.some.inj (right.symm.trans place)⟩
    rw [eq_of_worth?_eq k l (left.trans right.symm) broken]

theorem hash_eq_of_same [Hashable Code] (k l : Key) (h : k.same l = true) : k.hash = l.hash :=
  congrArg Hashable.hash (code_eq_of_same k l h)

end Key

end TableScript
