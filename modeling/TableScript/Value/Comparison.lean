import TableScript.Value.Basic

set_option autoImplicit false

namespace TableScript

namespace Value

def sameNumber (v w : Value) : Bool :=
  match v.number?, w.number? with
  | some a, some b => a.same b
  | _, _ => false

mutual
def equal : Value → Value → Bool
  | .none, .none => true
  | .str s, .str t => s == t
  | .list xs, .list ys => equalItems xs ys
  | .dict ⟨entries, _⟩, .dict other => entries.length == other.size && allFound entries other
  | v, w => sameNumber v w

def equalItems : List Value → List Value → Bool
  | [], [] => true
  | x :: xs, y :: ys => equal x y && equalItems xs ys
  | _, _ => false

def allFound : List (Key × Value) → Dict Value → Bool
  | [], _ => true
  | (k, v) :: rest, other =>
    (match other.find? k with
      | some w => equal v w
      | Option.none => false) && allFound rest other
end

end Value

inductive Verdict where
  | ordered (o : Ordering)
  | unordered
  | incomparable
deriving DecidableEq, Repr

namespace Value

def compareNumbers (v w : Value) : Verdict :=
  match v.number?, w.number? with
  | some a, some b =>
    match a.compare? b with
    | some o => .ordered o
    | Option.none => .unordered
  | _, _ => .incomparable

mutual
def compare : Value → Value → Verdict
  | .str s, .str t => .ordered (Ord.compare s t)
  | .list xs, .list ys => compareItems xs ys
  | v, w => compareNumbers v w

def compareItems : List Value → List Value → Verdict
  | x :: xs, y :: ys => if equal x y then compareItems xs ys else compare x y
  | xs, ys => .ordered (Ord.compare xs.length ys.length)
end

end Value

end TableScript
