import TableScript.Session.Run

set_option autoImplicit false

namespace TableScript

variable {E : Engine}

namespace Stmt

mutual

def twoWay : Stmt → Stmt
  | .expr e => .expr e
  | .conditional condition body elifs otherwise =>
    .conditional condition (twoWayAll body) [] (nested elifs (twoWayOtherwise otherwise))

def twoWayAll : List Stmt → List Stmt
  | [] => []
  | s :: rest => s.twoWay :: twoWayAll rest

def nested : List (Expr × List Stmt) → Option (List Stmt) → Option (List Stmt)
  | [], last => last
  | (condition, body) :: rest, last =>
    some [.conditional condition (twoWayAll body) [] (nested rest last)]

def twoWayOtherwise : Option (List Stmt) → Option (List Stmt)
  | none => none
  | some body => some (twoWayAll body)

end

mutual

def isTwoWay : Stmt → Bool
  | .expr _ => true
  | .conditional _ body elifs otherwise =>
    elifs.isEmpty && (areTwoWay body && isTwoWayOtherwise otherwise)

def areTwoWay : List Stmt → Bool
  | [] => true
  | s :: rest => s.isTwoWay && areTwoWay rest

def isTwoWayOtherwise : Option (List Stmt) → Bool
  | none => true
  | some body => areTwoWay body

end

mutual

theorem isTwoWay_twoWay (s : Stmt) : s.twoWay.isTwoWay = true := by
  cases s with
  | expr e => rfl
  | conditional condition body elifs otherwise =>
    have inside := areTwoWay_twoWayAll body
    have last := isTwoWayOtherwise_nested elifs _ (isTwoWayOtherwise_twoWayOtherwise otherwise)
    simp [twoWay, isTwoWay, inside, last]

theorem areTwoWay_twoWayAll (all : List Stmt) : areTwoWay (twoWayAll all) = true := by
  cases all with
  | nil => rfl
  | cons s rest => simp [twoWayAll, areTwoWay, isTwoWay_twoWay s, areTwoWay_twoWayAll rest]

theorem isTwoWayOtherwise_nested (elifs : List (Expr × List Stmt)) (last : Option (List Stmt))
    (h : isTwoWayOtherwise last = true) : isTwoWayOtherwise (nested elifs last) = true := by
  match elifs with
  | [] => exact h
  | (condition, body) :: rest =>
    have inside := areTwoWay_twoWayAll body
    have later := isTwoWayOtherwise_nested rest last h
    simp [nested, isTwoWayOtherwise, areTwoWay, isTwoWay, inside, later]

theorem isTwoWayOtherwise_twoWayOtherwise (otherwise : Option (List Stmt)) :
    isTwoWayOtherwise (twoWayOtherwise otherwise) = true := by
  cases otherwise with
  | none => rfl
  | some body => exact areTwoWay_twoWayAll body

end

mutual

theorem twoWay_of_isTwoWay (s : Stmt) (h : s.isTwoWay = true) : s.twoWay = s := by
  cases s with
  | expr e => rfl
  | conditional condition body elifs otherwise =>
    simp only [isTwoWay, Bool.and_eq_true, List.isEmpty_iff] at h
    obtain ⟨rfl, inside, last⟩ := h
    rw [twoWay, nested, twoWayAll_of_areTwoWay body inside,
      twoWayOtherwise_of_isTwoWayOtherwise otherwise last]

theorem twoWayAll_of_areTwoWay (all : List Stmt) (h : areTwoWay all = true) :
    twoWayAll all = all := by
  cases all with
  | nil => rfl
  | cons s rest =>
    simp only [areTwoWay, Bool.and_eq_true] at h
    rw [twoWayAll, twoWay_of_isTwoWay s h.1, twoWayAll_of_areTwoWay rest h.2]

theorem twoWayOtherwise_of_isTwoWayOtherwise (otherwise : Option (List Stmt))
    (h : isTwoWayOtherwise otherwise = true) : twoWayOtherwise otherwise = otherwise := by
  cases otherwise with
  | none => rfl
  | some body => exact congrArg some (twoWayAll_of_areTwoWay body h)

end

theorem runAll_singleton (settings : Settings) (s : Stmt) : runAll settings [s] = (run settings s : Run E Unit) := by
  rw [runAll, runAll]
  exact bind_pure_unit

mutual

theorem run_twoWay (settings : Settings) (s : Stmt) :
    run settings s.twoWay = (run settings s : Run E Unit) := by
  cases s with
  | expr e => rfl
  | conditional condition body elifs otherwise =>
    have inside := runAll_twoWayAll settings body
    have last := runOtherwise_twoWayOtherwise settings otherwise
    simp only [twoWay, run, runElifs, inside, runOtherwise_nested, last]

theorem runAll_twoWayAll (settings : Settings) (all : List Stmt) :
    runAll settings (twoWayAll all) = (runAll settings all : Run E Unit) := by
  cases all with
  | nil => rfl
  | cons s rest => simp only [twoWayAll, runAll, run_twoWay settings s, runAll_twoWayAll settings rest]

-- A block that holds one conditional is that conditional, so trying the branches in turn is the same.
theorem runOtherwise_nested (settings : Settings) (elifs : List (Expr × List Stmt))
    (last : Option (List Stmt)) :
    runOtherwise settings (nested elifs last) =
      (runElifs settings elifs (runOtherwise settings last) : Run E Unit) := by
  match elifs with
  | [] => rfl
  | (condition, body) :: rest =>
    have inside := runAll_twoWayAll settings body
    have later := runOtherwise_nested settings rest last
    simp only [nested, runOtherwise, runAll_singleton, run, runElifs, inside, later]

theorem runOtherwise_twoWayOtherwise (settings : Settings) (otherwise : Option (List Stmt)) :
    runOtherwise settings (twoWayOtherwise otherwise) =
      (runOtherwise settings otherwise : Run E Unit) := by
  cases otherwise with
  | none => rfl
  | some body => exact runAll_twoWayAll settings body

end

end Stmt

def Program.twoWay (p : Program) : Program := Stmt.twoWayAll p

theorem Session.elif_chains_nest :
    (∀ (condition next : Expr) (body block : List Stmt) (rest : List (Expr × List Stmt))
      (otherwise : Option (List Stmt)),
      Stmt.twoWay (.conditional condition body ((next, block) :: rest) otherwise) =
        .conditional condition (Stmt.twoWayAll body) []
          (some [Stmt.twoWay (.conditional next block rest otherwise)])) ∧
    ∀ p : Program, Stmt.areTwoWay p.twoWay = true ∧ (Stmt.areTwoWay p = true → p.twoWay = p) ∧
      ∀ (E : Engine) (settings : Settings) (s : Session E), s.run settings p.twoWay = s.run settings p := by
  refine ⟨fun _ _ _ _ _ _ => rfl, fun p => ?_⟩
  refine ⟨Stmt.areTwoWay_twoWayAll p, Stmt.twoWayAll_of_areTwoWay p, fun E settings s => ?_⟩
  rw [Session.run, Session.run, Program.twoWay, Stmt.runAll_twoWayAll settings p]

end TableScript
