import TableScript.Proofs.Syntax.CorrectPrefix
import TableScript.Proofs.Syntax.Likeness

set_option autoImplicit false

namespace TableScript

namespace Input

/--
The tokens that a reading can see, behind a token that stands at `last`: those up to the first end,
which stands where the last of them stands if the tokens have none.
-/
def seen (last : Span) : List Token → List Token
  | [] => [⟨.eof, last⟩]
  | t :: ts => if t.kind = .eof then [t] else t :: seen t.span ts

theorem seen_end (last : Span) (t : Token) (ts : List Token) (ends : t.kind = .eof) :
    seen last (t :: ts) = [t] :=
  if_pos ends

theorem seen_cons (last : Span) (t : Token) (ts : List Token) (more : t.kind ≠ .eof) :
    seen last (t :: ts) = t :: seen t.span ts :=
  if_neg more

theorem head?_seen (last : Span) (ts : List Token) :
    (seen last ts).head? = some (behind last ts).current := by
  cases ts with
  | nil => rfl
  | cons t ts =>
    by_cases ends : t.kind = .eof
    next => rw [seen_end last t ts ends]; rfl
    next => rw [seen_cons last t ts ends]; rfl

theorem seen_of_more (last : Span) (ts : List Token) (more : (behind last ts).kind ≠ .eof) :
    ∃ t rest, ts = t :: rest ∧ seen last ts = t :: seen t.span rest := by
  cases ts with
  | nil => exact absurd rfl more
  | cons t rest => exact ⟨t, rest, rfl, seen_cons last t rest more⟩

theorem seen_behind_end (last place : Span) (ts junk : List Token) :
    seen last (ts ++ ⟨.eof, place⟩ :: junk) = seen last (ts ++ [⟨.eof, place⟩]) := by
  induction ts generalizing last with
  | nil => rfl
  | cons t ts ih =>
    by_cases ends : t.kind = .eof
    next => simp only [List.cons_append, seen_end last t _ ends]
    next => simp only [List.cons_append, seen_cons last t _ ends, ih]

theorem seen_without_end (last : Span) (ts : List Token) :
    seen last (ts ++ [⟨.eof, spanAfter last ts⟩]) = seen last ts := by
  induction ts generalizing last with
  | nil => rfl
  | cons t ts ih =>
    by_cases ends : t.kind = .eof
    next => simp only [List.cons_append, seen_end last t _ ends]
    next => simp only [List.cons_append, seen_cons last t _ ends, spanAfter_cons, ih]

end Input

namespace Parser

open Input Likeness

def sameSeen : Likeness where
  inputs s t := ∃ last last' ts us, s = behind last ts ∧ t = behind last' us ∧
    seen last ts = seen last' us
  errors := Eq
  aside _ := False

theorem sameSeen_current (s t : Input) (near : sameSeen.inputs s t) : s.current = t.current := by
  obtain ⟨last, last', ts, us, rfl, rfl, same⟩ := near
  have heads := congrArg List.head? same
  rw [head?_seen, head?_seen] at heads
  exact Option.some.inj heads

theorem sameSeen_advance (s t : Input) (near : sameSeen.inputs s t) (more : s.kind ≠ .eof) :
    sameSeen.Both sameSeen.inputs s.advance t.advance := by
  have more' : t.kind ≠ .eof := by rwa [Input.kind, ← sameSeen_current s t near]
  obtain ⟨last, last', ts, us, rfl, rfl, same⟩ := near
  obtain ⟨a, ts, rfl, front⟩ := seen_of_more last ts more
  obtain ⟨b, us, rfl, front'⟩ := seen_of_more last' us more'
  rw [front, front'] at same
  obtain ⟨rfl, rest⟩ := List.cons.inj same
  rw [advance_behind, advance_behind]
  exact .read _ _ ⟨a.span, a.span, ts, us, rfl, rfl, rest⟩

theorem lawful_sameSeen : sameSeen.Lawful where
  kind s t near := congrArg Token.kind (sameSeen_current s t near)
  advance := sameSeen_advance
  peek s t near := by
    -- an end is refused after a look behind it, which shows nothing of what stands there
    obtain ⟨last, last', ts, us, rfl, rfl, -⟩ := near
    obtain ⟨after, moved⟩ := exists_advance last ts
    obtain ⟨after', moved'⟩ := exists_advance last' us
    rw [moved, moved']
    exact .read _ _ trivial
  unexpected s t expected near := by
    simp only [sameSeen, Input.kind, sameSeen_current s t near]
  target s t near := by
    simp only [sameSeen, sameSeen_current s t near]

end Parser

namespace Program

open TableScript.Parser Input Likeness

theorem ofTokens_of_seen (ts us : List Token)
    (same : seen ⟨0, 0, 0, 0⟩ ts = seen ⟨0, 0, 0, 0⟩ us) : ofTokens ts = ofTokens us := by
  have alike := (alike_statements lawful_sameSeen false ⟨_, _, ts, us, rfl, rfl, same⟩).values
  rw [← ofTokens_eq, ← ofTokens_eq] at alike
  cases first : ofTokens ts with
  | ok p =>
    rw [first] at alike
    obtain ⟨q, second, rfl⟩ := alike.of_ok
    exact second.symm
  | error e =>
    rw [first] at alike
    obtain aside | ⟨e', second, rfl⟩ := alike.of_error
    next => exact aside.elim
    next => exact second.symm

theorem ofTokens_end (place : Span) : ofTokens [⟨.eof, place⟩] = ofTokens [] := by
  rw [ofTokens_eq, ofTokens_eq, plain_statements_stop false _ rfl, plain_statements_stop false _ rfl]
  rfl

theorem ofTokens_stops_at_first_end (ts junk : List Token) (place : Span) :
    ofTokens (ts ++ ⟨.eof, place⟩ :: junk) = ofTokens (ts ++ [⟨.eof, place⟩]) ∧
      ofTokens ts = ofTokens (ts ++ [⟨.eof, (ts.getLast?.map Token.span).getD place⟩]) := by
  constructor
  next => exact ofTokens_of_seen _ _ (seen_behind_end _ place ts junk)
  next =>
    cases last : ts.getLast? with
    | none =>
      obtain rfl := List.getLast?_eq_none_iff.mp last
      exact (ofTokens_end place).symm
    | some t =>
      have whole := seen_without_end ⟨0, 0, 0, 0⟩ ts
      rw [spanAfter_of_getLast? _ ts t last] at whole
      exact ofTokens_of_seen _ _ whole.symm

end Program

end TableScript
