import TableScript.Proofs.Binary64

set_option autoImplicit false

namespace TableScript

namespace Place

theorem compare_swap (p q : Place) : (p.compare q).swap = q.compare p := by
  cases p with
  | bottom => cases q <;> rfl
  | top => cases q <;> rfl
  | point a =>
    cases q with
    | point b => exact Int.compare_swap a b
    | _ => rfl

end Place

namespace Number

def place? : Number → Option Place
  | .int n => some (Place.ofInt n)
  | .real x => x.place?

-- A floor splits off whole steps of `d`, and what is left over can only be in favour of `u`.
theorem compare_mul_of_floor (n u : Int) (d : Nat) (positive : 0 < d) :
    Ord.compare (n * d) u =
      match Ord.compare n (u / d) with
      | .eq => if u % d = 0 then .eq else .lt
      | order => order := by
  have step : 0 < (d : Int) := by exact_mod_cast positive
  have whole := Int.mul_ediv_add_emod u d
  have left := Int.emod_nonneg u step.ne'
  rcases lt_trichotomy n (u / d) with below | rfl | above
  next =>
    have less : n * d < u := by
      calc n * d < (u / d) * d := Int.mul_lt_mul_of_pos_right below step
        _ ≤ u := Int.ediv_mul_le u step.ne'
    rw [Int.compare_eq_lt.mpr below, Int.compare_eq_lt.mpr less]
  next =>
    rw [Int.compare_eq_eq.mpr rfl]
    dsimp only
    split
    next none => rw [Int.compare_eq_eq, Int.mul_comm]; omega
    next some => rw [Int.compare_eq_lt, Int.mul_comm]; omega
  next =>
    have greater : u < n * d := (Int.ediv_lt_iff_lt_mul step).mp above
    rw [Int.compare_eq_gt.mpr above, Int.compare_eq_gt.mpr greater]

theorem compareToReal?_eq (n : Int) (x : Binary64) :
    compareToReal? n x = x.place?.map (Place.ofInt n).compare := by
  cases x with
  | nan => rfl
  | infinite s => cases s <;> rfl
  | finite s r =>
    have whole : r.units % unitsPerOne = 0 ↔ Binary64.signed s r.units % unitsPerOne = 0 := by
      rw [← Nat.dvd_iff_mod_eq_zero, ← Int.dvd_iff_emod_eq_zero, ← Int.natCast_dvd_natCast,
        ← Int.dvd_natAbs (b := Binary64.signed s r.units), Binary64.natAbs_signed]
    have order := compare_mul_of_floor n (Binary64.signed s r.units) unitsPerOne unitsPerOne_pos
    have place : (Place.ofInt n).compare (.point (Binary64.signed s r.units)) =
        Ord.compare (n * unitsPerOne) (Binary64.signed s r.units) := rfl
    rw [compareToReal?, Binary64.place?, Option.map_some, place, order, Binary64.floor]
    generalize Ord.compare n (Binary64.signed s r.units / unitsPerOne) = first
    cases first with
    | eq => simp only [whole]
    | _ => rfl

theorem compare?_eq (a b : Number) :
    a.compare? b =
      match a.place?, b.place? with
      | some p, some q => some (p.compare q)
      | _, _ => none := by
  cases a with
  | int m =>
    cases b with
    | int n =>
      have step : 0 < (unitsPerOne : Int) := by exact_mod_cast unitsPerOne_pos
      have order : Ord.compare m n = Ord.compare (m * unitsPerOne) (n * unitsPerOne : Int) := by
        rw [compare_mul_of_floor m _ unitsPerOne unitsPerOne_pos, Int.mul_ediv_cancel _ step.ne',
          Int.mul_emod_left]
        generalize Ord.compare m n = first
        cases first <;> rfl
      exact congrArg some order
    | real y =>
      rw [compare?, compareToReal?_eq, place?, place?]
      cases y.place? <;> rfl
  | real x =>
    cases b with
    | int n =>
      rw [compare?, compareToReal?_eq, place?, place?]
      cases x.place? with
      | none => rfl
      | some p => exact congrArg some (Place.compare_swap _ p)
    | real y => rfl

theorem same_iff (a b : Number) :
    a.same b = true ↔ ∃ p, a.place? = some p ∧ b.place? = some p := by
  simp only [same, compare?_eq, beq_iff_eq]
  cases a.place? <;> cases b.place? <;> simp
  case some.some => exact eq_comm

end Number

end TableScript
