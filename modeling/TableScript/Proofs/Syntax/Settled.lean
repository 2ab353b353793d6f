import TableScript.Proofs.Syntax.Reading

set_option autoImplicit false

namespace TableScript

namespace Input

def behind (last : Span) : List Token → Input
  | [] => ⟨⟨.eof, last⟩, []⟩
  | t :: ts => ⟨t, ts.map .ok⟩

def firstKind : List Token → TokenKind
  | [] => .eof
  | t :: _ => t.kind

def spanAfter (last : Span) (front : List Token) : Span := front.foldl (fun _ t => t.span) last

@[simp] theorem spanAfter_nil (last : Span) : spanAfter last [] = last := rfl

@[simp] theorem spanAfter_cons (last : Span) (t : Token) (front : List Token) :
    spanAfter last (t :: front) = spanAfter t.span front := rfl

@[simp] theorem spanAfter_append (last : Span) (front more : List Token) :
    spanAfter last (front ++ more) = spanAfter (spanAfter last front) more :=
  List.foldl_append

theorem spanAfter_of_getLast? (last : Span) (front : List Token) (t : Token)
    (h : front.getLast? = some t) : spanAfter last front = t.span := by
  obtain ⟨before, rfl⟩ := List.getLast?_eq_some_iff.mp h
  simp

@[simp] theorem kind_behind (last : Span) (ts : List Token) :
    (behind last ts).kind = firstKind ts := by
  cases ts <;> rfl

@[simp] theorem advance_behind (last : Span) (t : Token) (ts : List Token) :
    (behind last (t :: ts)).advance = .ok (behind t.span ts) := by
  cases ts <;> rfl

theorem exists_advance (last : Span) (ts : List Token) :
    ∃ after, (behind last ts).advance = .ok after := by
  cases ts with
  | nil => exact ⟨_, rfl⟩
  | cons t ts => exact ⟨_, advance_behind last t ts⟩

theorem firstKind_append (front rest other : List Token) (h : firstKind other = firstKind rest) :
    firstKind (front ++ other) = firstKind (front ++ rest) := by
  cases front with
  | nil => exact h
  | cons t front => rfl

end Input

def SyntaxError.At (e : SyntaxError) (t : Token) : Prop :=
  (∃ expected, e = .unexpectedToken expected t.kind t.span.line t.span.column) ∨
    e = .invalidAssignmentTarget t.span.line t.span.column

namespace Parser

open Input

variable {α β : Type} {first stops : TokenKind → Prop} {last : Span} {front rest ts : List Token}
  {e : SyntaxError}

/-- Behind the same tokens, `other` leaves a reading as it is that `rest` ends. -/
def Swaps (stops : TokenKind → Prop) (rest other : List Token) : Prop :=
  firstKind other = firstKind rest ∨ stops (firstKind other)

/-- The error is raised at the token behind `front`, or at the end, whatever comes later. -/
inductive Refuses (f : Input → Plain α) (last : Span) (front : List Token) (e : SyntaxError) :
    List Token → Prop where
  | atEnd (expected : Expected) (fails : f (behind last front) = .error e)
      (place : e = .unexpectedToken expected .eof (spanAfter last front).line
        (spanAfter last front).column) : Refuses f last front e []
  | atToken (t : Token) (later : List Token) (place : e.At t)
      (fails : ∀ tail, f (behind last (front ++ t :: tail)) = .error e) :
      Refuses f last front e (t :: later)

def Completes (stops : TokenKind → Prop) (f : Input → Plain α) (last : Span) (front : List Token) :
    Prop :=
  ∃ more v, (∀ t ∈ more, t.kind ≠ .eof) ∧ ∀ rest, stops (firstKind rest) →
    f (behind last (front ++ (more ++ rest))) = .ok (v, behind (spanAfter last (front ++ more)) rest)

/-- A reading that the tokens up to its end, or up to its error, decide. -/
inductive Settled (stops : TokenKind → Prop) (f : Input → Plain α) (last : Span) (ts : List Token) :
    Prop where
  | reads (v : α) (front rest : List Token) (split : ts = front ++ rest)
      (takes : ∀ other, Swaps stops rest other →
        f (behind last (front ++ other)) = .ok (v, behind (spanAfter last front) other))
  | fails (e : SyntaxError) (front rest : List Token) (split : ts = front ++ rest)
      (refuses : Refuses f last front e rest) (completes : Completes stops f last front)

def Finishes (first stops : TokenKind → Prop) (f : Input → Plain α) : Prop :=
  ∀ last, ∃ more v, (∀ t ∈ more, t.kind ≠ .eof) ∧ ∀ rest, stops (firstKind rest) →
    first (firstKind (more ++ rest)) ∧
      f (behind last (more ++ rest)) = .ok (v, behind (spanAfter last more) rest)

theorem Finishes.completes {f : Input → Plain α} (h : Finishes first stops f) (last : Span) :
    Completes stops f last [] := by
  obtain ⟨more, v, noEnd, reads⟩ := h last
  exact ⟨more, v, noEnd, fun rest stop => (reads rest stop).2⟩

theorem Finishes.mono {f : Input → Plain α} {others : TokenKind → Prop} (h : Finishes first stops f)
    (sub : ∀ k, first k → others k) : Finishes others stops f := by
  intro last
  obtain ⟨more, v, noEnd, reads⟩ := h last
  exact ⟨more, v, noEnd, fun rest stop => ⟨sub _ (reads rest stop).1, (reads rest stop).2⟩⟩

theorem Finishes.anyhow {f : Input → Plain α} (h : Finishes first stops f) :
    Finishes (fun _ => True) stops f :=
  h.mono fun _ _ => trivial

theorem Finishes.congr_first {f g : Input → Plain α} (h : Finishes first stops g)
    (same : ∀ s : Input, first s.kind → f s = g s) : Finishes first stops f := by
  intro last
  obtain ⟨more, v, noEnd, reads⟩ := h last
  refine ⟨more, v, noEnd, fun rest stop => ?_⟩
  obtain ⟨starts, read⟩ := reads rest stop
  exact ⟨starts, (same _ (by rwa [kind_behind])).trans read⟩

theorem Refuses.eq_error {f : Input → Plain α} (h : Refuses f last front e rest) :
    f (behind last (front ++ rest)) = .error e := by
  cases h with
  | atEnd expected fails place => rwa [List.append_nil]
  | atToken t later place fails => exact fails later

theorem Refuses.transfer {f : Input → Plain α} {g : Input → Plain β} {inner : Span}
    {within : List Token} (h : Refuses g inner within e rest)
    (place : spanAfter last front = spanAfter inner within)
    (fails : ∀ more, firstKind more = firstKind rest →
      g (behind inner (within ++ more)) = .error e → f (behind last (front ++ more)) = .error e) :
    Refuses f last front e rest := by
  cases h with
  | atEnd expected failed here =>
    apply Refuses.atEnd expected
    next => simpa using fails [] rfl (by simpa using failed)
    next => rw [place, here]
  | atToken t later here failed =>
    apply Refuses.atToken t later here
    intro tail
    exact fails (t :: tail) rfl (failed tail)

theorem Completes.transfer {f g : Input → Plain α} {inner : Span} {within : List Token}
    (h : Completes stops g inner within) (place : spanAfter last front = spanAfter inner within)
    (reads : ∀ tail v s, g (behind inner (within ++ tail)) = .ok (v, s) →
      f (behind last (front ++ tail)) = .ok (v, s)) : Completes stops f last front := by
  obtain ⟨more, v, noEnd, read⟩ := h
  refine ⟨more, v, noEnd, fun rest stop => ?_⟩
  rw [spanAfter_append, place, ← spanAfter_append]
  exact reads _ v _ (read rest stop)

theorem Settled.past {f g : Input → Plain α} (t : Token)
    (same : ∀ tail, f (behind last (t :: tail)) = g (behind t.span tail))
    (h : Settled stops g t.span ts) : Settled stops f last (t :: ts) := by
  cases h with
  | reads v front rest split takes =>
    subst split
    apply Settled.reads v (t :: front) rest rfl
    intro other swaps
    rw [List.cons_append, same]
    exact takes other swaps
  | fails e front rest split refuses completes =>
    subst split
    apply Settled.fails e (t :: front) rest rfl
    next =>
      apply Refuses.transfer refuses
      next => rfl
      next =>
        intro more _ failed
        rw [List.cons_append, same, failed]
    next =>
      apply completes.transfer
      next => rfl
      next =>
        intro tail v s read
        rw [List.cons_append, same, read]

theorem Settled.congr_first {f g : Input → Plain α} (h : Settled stops g last ts)
    (same : ∀ other, firstKind other = firstKind ts → f (behind last other) = g (behind last other))
    (shorter : ∀ v rest, f (behind last ts) = .ok (v, rest) → rest.size < (behind last ts).size)
    (completes : Completes stops f last []) : Settled stops f last ts := by
  cases h with
  | reads v front rest split takes =>
    cases front with
    | nil =>
      -- `f` takes something, so it cannot be that nothing was read
      have here := takes rest (.inl rfl)
      rw [List.nil_append, ← show ts = rest from split, ← same ts rfl] at here
      exact absurd (shorter v _ here) (Nat.lt_irrefl _)
    | cons t front =>
      apply Settled.reads v (t :: front) rest split
      intro other swaps
      rw [same _ (by rw [split]; rfl)]
      exact takes other swaps
  | fails e front rest split refuses completed =>
    apply Settled.fails e front rest split
    next =>
      apply Refuses.transfer refuses rfl
      intro more next failed
      rw [same _ (by rw [split]; exact firstKind_append front rest more next), failed]
    next =>
      cases front with
      | nil => exact completes
      | cons t front =>
        apply completed.transfer rfl
        intro tail v s read
        rw [same _ (by rw [split]; rfl), read]

theorem settled_advance {f g : Input → Plain α} (more : firstKind ts ≠ .eof)
    (step : ∀ s : Input, s.kind = firstKind ts → f s = s.advance.bind g)
    (next : ∀ after rest, (behind after rest).size < (behind last ts).size →
      Settled stops g after rest) :
    Settled stops f last ts := by
  cases ts with
  | nil => exact absurd rfl more
  | cons t rest =>
    have shorter := advance_size_lt _ _ (advance_behind last t rest) more
    apply Settled.past t _ (next t.span rest shorter)
    intro tail
    rw [step _ (kind_behind last (t :: tail)), advance_behind]
    rfl

structure Rests (stops ends : TokenKind → Prop) (v : α) (f : Input → Plain α) : Prop where
  stop : ∀ s : Input, ends s.kind → f s = .ok (v, s)
  sub : ∀ k, stops k → ends k

theorem Rests.settled {f : Input → Plain α} {v : α} {ends : TokenKind → Prop}
    (h : Rests stops ends v f) (here : ends (firstKind ts)) : Settled stops f last ts := by
  apply Settled.reads v [] ts rfl
  intro other swaps
  apply h.stop
  rw [kind_behind]
  rcases swaps with same | stops
  next => exact same ▸ here
  next => exact h.sub _ stops

theorem Rests.finishes {f : Input → Plain α} {v : α} {ends : TokenKind → Prop}
    (h : Rests stops ends v f) : Finishes stops stops f := by
  intro last
  refine ⟨[], v, by simp, fun rest stops => ⟨stops, h.stop _ ?_⟩⟩
  rw [kind_behind]
  exact h.sub _ stops

theorem rests_return (v : α) : Rests stops (fun _ => True) v fun s => .ok (v, s) :=
  ⟨fun _ _ => rfl, fun _ _ => trivial⟩

theorem settled_return (v : α) : Settled stops (fun s => .ok (v, s)) last ts :=
  (rests_return v).settled trivial

theorem finishes_return (v : α) : Finishes stops stops (fun s => .ok (v, s)) :=
  (rests_return v).finishes

theorem bind_eq_ok {f : Input → Plain α} {g : α → Input → Plain β} {s middle after : Input} {v : α}
    {w : β} (one : f s = .ok (v, middle)) (two : g v middle = .ok (w, after)) :
    ((f s).bind fun x => g x.1 x.2) = .ok (w, after) := by
  rw [one]
  exact two

theorem Finishes.bind {f : Input → Plain α} {g : α → Input → Plain β} {middle : TokenKind → Prop}
    (one : Finishes first middle f) (two : ∀ v, Finishes middle stops (g v)) :
    Finishes first stops fun s => (f s).bind fun x => g x.1 x.2 := by
  intro last
  obtain ⟨more, v, noEnd, reads⟩ := one last
  obtain ⟨others, w, noEnd', reads'⟩ := two v (spanAfter last more)
  refine ⟨more ++ others, w, List.forall_mem_append.mpr ⟨noEnd, noEnd'⟩, fun rest stop => ?_⟩
  obtain ⟨starts, read'⟩ := reads' rest stop
  obtain ⟨starts, read⟩ := reads (others ++ rest) starts
  rw [List.append_assoc, spanAfter_append]
  exact ⟨starts, bind_eq_ok read read'⟩

theorem Finishes.map {f : Input → Plain α} (one : Finishes first stops f) (h : α → β) :
    Finishes first stops fun s => (f s).map fun x => (h x.1, x.2) :=
  one.bind fun v => finishes_return (h v)

theorem Completes.bind {f : Input → Plain α} {g : α → Input → Plain β} {middle : TokenKind → Prop}
    (one : Completes middle f last front) (finish : ∀ v, Finishes middle stops (g v)) :
    Completes stops (fun s => (f s).bind fun x => g x.1 x.2) last front := by
  obtain ⟨more, v, noEnd, reads⟩ := one
  obtain ⟨others, w, noEnd', reads'⟩ := finish v (spanAfter last (front ++ more))
  refine ⟨more ++ others, w, List.forall_mem_append.mpr ⟨noEnd, noEnd'⟩, fun rest stop => ?_⟩
  obtain ⟨starts, read'⟩ := reads' rest stop
  rw [← spanAfter_append, List.append_assoc] at read'
  rw [List.append_assoc]
  exact bind_eq_ok (reads (others ++ rest) starts) read'

theorem Settled.bind {f : Input → Plain α} {g : α → Input → Plain β} {middle : TokenKind → Prop}
    (one : Settled middle f last ts)
    (sub : (∀ k, stops k → middle k) ∨ ∀ v s w, g v s ≠ .ok (w, s))
    (finish : ∀ v, Finishes middle stops (g v))
    (two : ∀ v front rest, ts = front ++ rest →
      f (behind last ts) = .ok (v, behind (spanAfter last front) rest) →
      Settled stops (g v) (spanAfter last front) rest) :
    Settled stops (fun s => (f s).bind fun x => g x.1 x.2) last ts := by
  cases one with
  | fails e front rest split refuses completes =>
    apply Settled.fails e front rest split
    next =>
      apply Refuses.transfer refuses rfl
      intro more _ failed
      simp only [failed, Except.bind]
    next => exact completes.bind finish
  | reads v front rest split takes =>
    have read : f (behind last ts) = .ok (v, behind (spanAfter last front) rest) := by
      rw [split]
      exact takes rest (.inl rfl)
    cases two v front rest split read with
    | reads w within later split' takes' =>
      subst split'
      apply Settled.reads w (front ++ within) later
      next => rw [split, List.append_assoc]
      next =>
        intro other swaps
        have follows : Swaps middle (within ++ later) (within ++ other) := by
          cases within with
          | nil =>
            rcases swaps with same | stop
            next => exact .inl same
            next =>
              rcases sub with sub | moves
              next => exact .inr (sub _ stop)
              next => exact absurd (takes' later (.inl rfl)) (moves v _ w)
          | cons t within => exact .inl rfl
        rw [List.append_assoc, spanAfter_append]
        exact bind_eq_ok (takes _ follows) (takes' other swaps)
    | fails e within later split' refuses completes =>
      subst split'
      apply Settled.fails e (front ++ within) later
      next => rw [split, List.append_assoc]
      next =>
        apply Refuses.transfer refuses (spanAfter_append _ _ _)
        intro more same failed
        rw [List.append_assoc]
        simp only [takes _ (.inl (firstKind_append within later more same)), Except.bind, failed]
      next =>
        cases within with
        | nil =>
          -- `g` took nothing, so what finishes it must also end what `f` read
          obtain ⟨more, w, noEnd, reads⟩ := finish v (spanAfter last front)
          refine ⟨more, w, noEnd, fun rest stop => ?_⟩
          obtain ⟨starts, read'⟩ := reads rest stop
          rw [List.append_nil, spanAfter_append]
          exact bind_eq_ok (takes _ (.inr starts)) read'
        | cons t within =>
          apply completes.transfer (spanAfter_append _ _ _)
          intro tail w s read
          rw [List.append_assoc]
          exact bind_eq_ok (takes _ (.inl rfl)) read

theorem Settled.onward {bound : Input → Nat} {r : (s : Input) → Result α (bound s)}
    {g : α → Input → Plain β} {middle : TokenKind → Prop}
    (one : Settled middle (fun s => plain (r s)) last ts) (sub : ∀ k, stops k → middle k)
    (finish : ∀ v, Finishes middle stops (g v))
    (two : ∀ v after rest, (behind after rest).size < bound (behind last ts) →
      Settled stops (g v) after rest) :
    Settled stops (fun s => (plain (r s)).bind fun x => g x.1 x.2) last ts := by
  apply one.bind (.inl sub) finish
  intro v front rest _ read
  exact two v _ rest (plain_shorter _ v _ read)

theorem Settled.map {f : Input → Plain α} (one : Settled stops f last ts) (h : α → β) :
    Settled stops (fun s => (f s).map fun x => (h x.1, x.2)) last ts := by
  apply one.bind (.inl fun _ stop => stop) fun v => finishes_return (h v)
  intro v _ _ _ _
  exact settled_return (h v)

theorem settled_unexpected {f : Input → Plain α} (expected : Expected)
    (fails : ∀ other, firstKind other = firstKind ts →
      f (behind last other) = (behind last other).unexpected expected)
    (completes : Completes stops f last []) : Settled stops f last ts := by
  cases ts with
  | nil =>
    apply Settled.fails (.unexpectedToken expected .eof last.line last.column) [] [] rfl
    next => exact .atEnd expected (fails [] rfl) rfl
    next => exact completes
  | cons t rest =>
    apply Settled.fails (.unexpectedToken expected t.kind t.span.line t.span.column) [] _ rfl
    next => exact .atToken t rest (.inl ⟨expected, rfl⟩) fun tail => fails (t :: tail) rfl
    next => exact completes

theorem skip_behind (symbol : Symbol) (t : Token) (here : t.kind = .symbol symbol) (last : Span)
    (rest : List Token) : (behind last (t :: rest)).skip symbol = .ok (behind t.span rest) := by
  rw [Input.skip, if_pos (by rw [kind_behind]; exact here), advance_behind]

theorem finishes_skip (symbol : Symbol) {g : Input → Plain β} (starts : first (.symbol symbol))
    (finish : Finishes (fun _ => True) stops g) :
    Finishes first stops fun s => (s.skip symbol).bind g := by
  intro last
  obtain ⟨more, w, noEnd, reads⟩ := finish default
  refine ⟨⟨.symbol symbol, default⟩ :: more, w, ?_, fun rest stop => ⟨starts, ?_⟩⟩
  next => exact List.forall_mem_cons.mpr ⟨by simp, noEnd⟩
  next =>
    have skipped := skip_behind symbol ⟨.symbol symbol, default⟩ rfl last (more ++ rest)
    simp only [List.cons_append, skipped, Except.bind, (reads rest stop).2, spanAfter_cons]

theorem settled_skip (symbol : Symbol) {g : Input → Plain β}
    (finish : Finishes (fun _ => True) stops g)
    (next : ∀ after rest, (behind after rest).size < (behind last ts).size →
      Settled stops g after rest) :
    Settled stops (fun s => (s.skip symbol).bind g) last ts := by
  by_cases here : firstKind ts = .symbol symbol
  next =>
    apply settled_advance (by simp [here]) _ next
    intro s same
    rw [Input.skip, if_pos (same.trans here)]
  next =>
    apply settled_unexpected (.token (.symbol symbol))
    next =>
      intro other same
      have wrong : ¬ (behind last other).kind = .symbol symbol := by
        rwa [kind_behind, same]
      rw [Input.skip, if_neg wrong]
      rfl
    next =>
      have finishes : Finishes (fun _ => True) stops fun s => (s.skip symbol).bind g :=
        finishes_skip symbol trivial finish
      exact finishes.completes last

theorem settled_skip_return (symbol : Symbol) (v : α) :
    Settled stops (fun s => (s.skip symbol).map fun close => (v, close)) last ts :=
  settled_skip symbol (finishes_return v).anyhow fun _ _ _ => settled_return v

theorem finishes_skip_return (symbol : Symbol) (v : α) (starts : first (.symbol symbol)) :
    Finishes first stops fun s => (s.skip symbol).map fun close => (v, close) :=
  finishes_skip symbol starts (finishes_return v).anyhow

theorem skip_return_ne (symbol : Symbol) (v : α) (s : Input) (w : α) :
    ((s.skip symbol).map fun close => (v, close)) ≠ .ok (w, s) := by
  intro same
  obtain ⟨close, skipped, same⟩ := (map_eq_ok_iff _ _ _).mp same
  cases same
  exact absurd (skip_size_lt s s symbol skipped) (Nat.lt_irrefl _)

theorem Finishes.closed {f : Input → Plain α} {middle : TokenKind → Prop}
    (one : Finishes first middle f) (symbol : Symbol) (ends : middle (.symbol symbol)) (h : α → β) :
    Finishes first stops fun s => (f s).bind fun x =>
      (x.2.skip symbol).map fun close => (h x.1, close) :=
  one.bind fun v => finishes_skip_return symbol (h v) ends

theorem Settled.closed {f : Input → Plain α} {middle : TokenKind → Prop}
    (one : Settled middle f last ts) (symbol : Symbol) (ends : middle (.symbol symbol)) (h : α → β) :
    Settled stops (fun s => (f s).bind fun x =>
      (x.2.skip symbol).map fun close => (h x.1, close)) last ts := by
  -- the symbol is always taken, so what follows it need not be able to stop what it closes
  apply one.bind (.inr fun v => skip_return_ne symbol (h v))
    (fun v => finishes_skip_return symbol (h v) ends)
  intro v _ _ _ _
  exact settled_skip_return symbol (h v)

end Parser

end TableScript
