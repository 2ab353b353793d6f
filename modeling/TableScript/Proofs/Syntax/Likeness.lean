import TableScript.Proofs.Syntax.Finishing

set_option autoImplicit false

namespace TableScript

namespace Parser

open Input

structure Likeness where
  inputs : Input → Input → Prop
  errors : SyntaxError → SyntaxError → Prop
  /-- What may stop the reading of the first input alone. -/
  aside : SyntaxError → Prop

namespace Likeness

variable {α β : Type} {L : Likeness}

inductive Both (L : Likeness) (alike : α → α → Prop) :
    Except SyntaxError α → Except SyntaxError α → Prop where
  | aside (e : SyntaxError) (y : Except SyntaxError α) (h : L.aside e) : Both L alike (.error e) y
  | fail (e e' : SyntaxError) (h : L.errors e e') : Both L alike (.error e) (.error e')
  | read (a b : α) (h : alike a b) : Both L alike (.ok a) (.ok b)

abbrev Alike (L : Likeness) (x y : Plain α) : Prop :=
  L.Both (fun a b => a.1 = b.1 ∧ L.inputs a.2 b.2) x y

structure Lawful (L : Likeness) : Prop where
  kind : ∀ s t, L.inputs s t → s.kind = t.kind
  advance : ∀ s t, L.inputs s t → s.kind ≠ .eof → L.Both L.inputs s.advance t.advance
  -- a token is refused only after the one behind it was read, and it may be the last one
  peek : ∀ s t, L.inputs s t → L.Both (fun _ _ => True) s.advance t.advance
  unexpected : ∀ s t expected, L.inputs s t → L.errors
    (.unexpectedToken expected s.kind s.current.span.line s.current.span.column)
    (.unexpectedToken expected t.kind t.current.span.line t.current.span.column)
  target : ∀ s t, L.inputs s t → L.errors
    (.invalidAssignmentTarget s.current.span.line s.current.span.column)
    (.invalidAssignmentTarget t.current.span.line t.current.span.column)

theorem Both.bind {alike : α → α → Prop} {also : β → β → Prop} {x y : Except SyntaxError α}
    {f g : α → Except SyntaxError β} (one : L.Both alike x y)
    (two : ∀ a b, x = .ok a → alike a b → L.Both also (f a) (g b)) :
    L.Both also (x.bind f) (y.bind g) := by
  cases one with
  | aside e y h => exact .aside e _ h
  | fail e e' h => exact .fail e e' h
  | read a b h => exact two a b rfl h

theorem Both.mono {alike also : α → α → Prop} {x y : Except SyntaxError α} (h : L.Both alike x y)
    (sub : ∀ a b, alike a b → also a b) : L.Both also x y := by
  cases h with
  | aside e y h => exact .aside e y h
  | fail e e' h => exact .fail e e' h
  | read a b h => exact .read a b (sub a b h)

theorem Both.of_ok {alike : α → α → Prop} {a : α} {y : Except SyntaxError α}
    (h : L.Both alike (.ok a) y) : ∃ b, y = .ok b ∧ alike a b := by
  cases h with
  | read a b h => exact ⟨b, rfl, h⟩

theorem Both.of_error {alike : α → α → Prop} {e : SyntaxError} {y : Except SyntaxError α}
    (h : L.Both alike (.error e) y) : L.aside e ∨ ∃ e', y = .error e' ∧ L.errors e e' := by
  cases h with
  | aside e y h => exact .inl h
  | fail e e' h => exact .inr ⟨e', rfl, h⟩

theorem Alike.bind {x y : Plain α} {f : α × Input → Plain β} (one : L.Alike x y)
    (two : ∀ v s t, x = .ok (v, s) → L.inputs s t → L.Alike (f (v, s)) (f (v, t))) :
    L.Alike (x.bind f) (y.bind f) := by
  apply Both.bind one
  rintro ⟨v, s⟩ ⟨w, t⟩ read ⟨rfl, near⟩
  exact two v s t read near

theorem alike_return (v : α) {s t : Input} (near : L.inputs s t) : L.Alike (.ok (v, s)) (.ok (v, t)) :=
  .read (v, s) (v, t) ⟨rfl, near⟩

theorem Alike.map {x y : Plain α} (one : L.Alike x y) (f : α → β) :
    L.Alike (x.map fun a => (f a.1, a.2)) (y.map fun a => (f a.1, a.2)) :=
  one.bind fun v _ _ _ near => alike_return (f v) near

theorem Alike.values {x y : Plain α} (one : L.Alike x y) : L.Both Eq (x.map (·.1)) (y.map (·.1)) :=
  Both.bind one fun a b _ alike => .read a.1 b.1 alike.1

-- a reading that is followed by another one: what it leaves is below its bound
theorem Alike.onward {m n : Nat} {r : Result α m} {r' : Result α n} {f : α × Input → Plain β}
    (one : L.Alike (plain r) (plain r'))
    (two : ∀ v s t, s.size < m → L.inputs s t → L.Alike (f (v, s)) (f (v, t))) :
    L.Alike ((plain r).bind f) ((plain r').bind f) :=
  one.bind fun v s t read near => two v s t (plain_shorter r v s read) near

end Likeness

open Likeness

variable {α β : Type} {L : Likeness}

theorem alike_unexpected (law : L.Lawful) {s t : Input} (near : L.inputs s t) (expected : Expected) :
    L.Alike (s.unexpected expected : Plain α) (t.unexpected expected) :=
  .fail _ _ (law.unexpected s t expected near)

theorem alike_advance (law : L.Lawful) {s t : Input} {f : Input → Plain α} (near : L.inputs s t)
    (more : s.kind ≠ .eof)
    (next : ∀ s' t', s'.size < s.size → L.inputs s' t' → L.Alike (f s') (f t')) :
    L.Alike (s.advance.bind f) (t.advance.bind f) := by
  apply (law.advance s t near more).bind
  intro s' t' moved near'
  exact next s' t' (advance_size_lt s s' moved more) near'

theorem alike_skip (law : L.Lawful) {s t : Input} {f : Input → Plain α} (near : L.inputs s t)
    (symbol : Symbol)
    (next : ∀ s' t', s'.size < s.size → L.inputs s' t' → L.Alike (f s') (f t')) :
    L.Alike ((s.skip symbol).bind f) ((t.skip symbol).bind f) := by
  unfold Input.skip
  rw [← law.kind s t near]
  by_cases here : s.kind = .symbol symbol
  next =>
    rw [if_pos here, if_pos here]
    exact alike_advance law near (by simp [here]) next
  next =>
    rw [if_neg here, if_neg here]
    exact .fail _ _ (law.unexpected s t _ near)

theorem alike_close (law : L.Lawful) {s t : Input} (near : L.inputs s t) (symbol : Symbol) (v : α) :
    L.Alike ((s.skip symbol).map fun close => (v, close))
      ((t.skip symbol).map fun close => (v, close)) :=
  alike_skip law near symbol fun _ _ _ near => alike_return v near

theorem Likeness.Alike.closed (law : L.Lawful) {x y : Plain α} (one : L.Alike x y) (symbol : Symbol)
    (f : α → β) :
    L.Alike (x.bind fun a => (a.2.skip symbol).map fun close => (f a.1, close))
      (y.bind fun a => (a.2.skip symbol).map fun close => (f a.1, close)) :=
  one.bind fun v _ _ _ near => alike_close law near symbol (f v)

mutual

theorem alike_chain (law : L.Lawful) (tier : Tier) {s t : Input} (near : L.inputs s t) :
    L.Alike (plain (chain tier s)) (plain (chain tier t)) := by
  rw [plain_chain, plain_chain]
  apply (alike_operand law tier near).onward
  intro left s' t' fewer near
  exact alike_chainRest law tier left near
termination_by (s.size, 2 * tier.depth + 4)

theorem alike_chainRest (law : L.Lawful) (tier : Tier) (left : Expr) {s t : Input}
    (near : L.inputs s t) :
    L.Alike (plain (chainRest tier left s)) (plain (chainRest tier left t)) := by
  cases sign : tier.operator? s.kind with
  | none =>
    rw [plain_chainRest_stop tier left s sign,
      plain_chainRest_stop tier left t (law.kind s t near ▸ sign)]
    exact alike_return left near
  | some op =>
    rw [plain_chainRest_step tier left s op sign,
      plain_chainRest_step tier left t op (law.kind s t near ▸ sign)]
    apply alike_advance law near (ne_eof_of_operator? sign)
    intro s' t' fewer near
    apply (alike_operand law tier near).onward
    intro right s'' t'' fewest near
    exact alike_chainRest law tier (.binary op left right) near
termination_by (s.size, 0)

theorem alike_operand (law : L.Lawful) (tier : Tier) {s t : Input} (near : L.inputs s t) :
    L.Alike (plain (operand tier s)) (plain (operand tier t)) := by
  rw [plain_operand, plain_operand]
  cases tier with
  | logical => exact alike_chain law .comparison near
  | comparison => exact alike_chain law .additive near
  | additive => exact alike_chain law .multiplicative near
  | multiplicative => exact alike_factor law near
termination_by (s.size, 2 * tier.depth + 3)

theorem alike_factor (law : L.Lawful) {s t : Input} (near : L.inputs s t) :
    L.Alike (plain (factor s)) (plain (factor t)) := by
  rw [plain_factor, plain_factor]
  apply (alike_primary law near).onward
  intro container s' t' fewer near
  exact alike_subscripts law container near
termination_by (s.size, 2)

theorem alike_subscripts (law : L.Lawful) (container : Expr) {s t : Input} (near : L.inputs s t) :
    L.Alike (plain (subscripts container s)) (plain (subscripts container t)) := by
  have same := law.kind s t near
  by_cases here : s.kind = .symbol .lbracket
  next =>
    rw [plain_subscripts_step container s here, plain_subscripts_step container t (same ▸ here)]
    apply alike_advance law near (by simp [here])
    intro s' t' fewer near
    apply (alike_chain law .logical near).onward
    intro position s' t' fewer near
    apply alike_skip law near
    intro s' t' fewer near
    exact alike_subscripts law (.index container position) near
  next =>
    rw [plain_subscripts_stop container s here, plain_subscripts_stop container t (same ▸ here)]
    exact alike_return container near
termination_by (s.size, 0)

theorem alike_primary (law : L.Lawful) {s t : Input} (near : L.inputs s t) :
    L.Alike (plain (primary s)) (plain (primary t)) := by
  rw [plain_primary, plain_primary, ← law.kind s t near]
  rcases primaryAt_cases s.kind with ⟨g, rest, more, step⟩ | refused
  next =>
    rw [step s, step t]
    apply alike_advance law near more
    intro s' t' fewer near
    cases rest with
    | atom e => exact alike_return e near
    | unary op => exact (alike_factor law near).map (Expr.unary op)
    | dict => exact (alike_entries law near).closed law .rbrace Expr.dict
    | paren => exact (alike_chain law .logical near).closed law .rparen id
    | named name => exact alike_named law name near
  next =>
    rw [refused s, refused t]
    exact (law.peek s t near).bind fun _ _ _ _ => alike_unexpected law near .expression
termination_by (s.size, 1)

theorem alike_named (law : L.Lawful) (name : String) {s t : Input} (near : L.inputs s t) :
    L.Alike (plain (named name s)) (plain (named name t)) := by
  have same := law.kind s t near
  by_cases assign : s.kind = .symbol .assign
  next =>
    rw [plain_named_assign name s assign, plain_named_assign name t (same ▸ assign)]
    apply alike_advance law near (by simp [assign])
    intro s' t' fewer near
    exact (alike_chain law .logical near).map (Expr.assign name)
  next =>
    by_cases paren : s.kind = .symbol .lparen
    next =>
      rw [plain_named_call name s paren, plain_named_call name t (same ▸ paren)]
      apply alike_advance law near (by simp [paren])
      intro s' t' fewer near
      exact (alike_arguments law near).map (Expr.call name)
    next =>
      rw [plain_named_var name s assign paren, plain_named_var name t (same ▸ assign) (same ▸ paren)]
      exact alike_return (Expr.var name) near
termination_by (s.size, 0)

theorem alike_arguments (law : L.Lawful) {s t : Input} (near : L.inputs s t) :
    L.Alike (plain (arguments s)) (plain (arguments t)) := by
  have same := law.kind s t near
  by_cases close : s.kind = .symbol .rparen
  next =>
    rw [plain_arguments_none s close, plain_arguments_none t (same ▸ close)]
    exact alike_advance law near (by simp [close]) fun _ _ _ near => alike_return [] near
  next =>
    rw [plain_arguments_some s close, plain_arguments_some t (same ▸ close)]
    apply (alike_chain law .logical near).onward
    intro first s' t' fewer near
    exact (alike_moreArguments law near).closed law .rparen (first :: ·)
termination_by (s.size, 11)

theorem alike_moreArguments (law : L.Lawful) {s t : Input} (near : L.inputs s t) :
    L.Alike (plain (moreArguments s)) (plain (moreArguments t)) := by
  have same := law.kind s t near
  by_cases comma : s.kind = .symbol .comma
  next =>
    rw [plain_moreArguments_step s comma, plain_moreArguments_step t (same ▸ comma)]
    apply alike_advance law near (by simp [comma])
    intro s' t' fewer near
    apply (alike_chain law .logical near).onward
    intro arg s' t' fewer near
    exact (alike_moreArguments law near).map (arg :: ·)
  next =>
    rw [plain_moreArguments_stop s comma, plain_moreArguments_stop t (same ▸ comma)]
    exact alike_return [] near
termination_by (s.size, 0)

theorem alike_entries (law : L.Lawful) {s t : Input} (near : L.inputs s t) :
    L.Alike (plain (entries s)) (plain (entries t)) := by
  have same := law.kind s t near
  by_cases close : s.kind = .symbol .rbrace
  next =>
    rw [plain_entries_stop s close, plain_entries_stop t (same ▸ close)]
    exact alike_return [] near
  next =>
    rw [plain_entries_step s close, plain_entries_step t (same ▸ close)]
    apply (alike_chain law .additive near).onward
    intro key s' t' fewer near
    apply alike_skip law near
    intro s' t' fewer near
    apply (alike_chain law .additive near).onward
    intro value s' t' fewer near
    exact alike_entriesRest law key value near
termination_by (s.size, 11)

theorem alike_entriesRest (law : L.Lawful) (key value : Expr) {s t : Input} (near : L.inputs s t) :
    L.Alike (entriesRest key value s) (entriesRest key value t) := by
  have same := law.kind s t near
  by_cases comma : s.kind = .symbol .comma
  next =>
    rw [entriesRest_step key value s comma, entriesRest_step key value t (same ▸ comma)]
    apply alike_advance law near (by simp [comma])
    intro s' t' fewer near
    exact (alike_entries law near).map ((key, value) :: ·)
  next =>
    rw [entriesRest_stop key value s comma, entriesRest_stop key value t (same ▸ comma)]
    exact alike_return [(key, value)] near
termination_by (s.size, 0)

end

mutual

theorem alike_assignment (law : L.Lawful) {s t : Input} (near : L.inputs s t) :
    L.Alike (plain (assignment s)) (plain (assignment t)) := by
  rw [plain_assignment_rest, plain_assignment_rest]
  apply (alike_chain law .logical near).onward
  intro left s' t' fewer near
  exact alike_assignmentRest law left near
termination_by (s.size, 1)

theorem alike_assignmentRest (law : L.Lawful) (left : Expr) {s t : Input} (near : L.inputs s t) :
    L.Alike (assignmentRest left s) (assignmentRest left t) := by
  have same := law.kind s t near
  by_cases assign : s.kind = .symbol .assign
  next =>
    by_cases target : ∃ name, left = .var name
    next =>
      obtain ⟨name, rfl⟩ := target
      rw [assignmentRest_var name s assign, assignmentRest_var name t (same ▸ assign)]
      apply alike_advance law near (by simp [assign])
      intro s' t' fewer near
      exact (alike_assignment law near).map (Expr.assign name)
    next =>
      have other (name : String) (h : left = .var name) : False := target ⟨name, h⟩
      rw [assignmentRest_invalid left s assign other,
        assignmentRest_invalid left t (same ▸ assign) other]
      exact .fail _ _ (law.target s t near)
  next =>
    rw [assignmentRest_stop left s assign, assignmentRest_stop left t (same ▸ assign)]
    exact alike_return left near
termination_by (s.size, 0)

end

mutual

theorem alike_statements (law : L.Lawful) (inBlock : Bool) {s t : Input} (near : L.inputs s t) :
    L.Alike (plain (statements inBlock s)) (plain (statements inBlock t)) := by
  have same := law.kind s t near
  cases ends : endsStatements inBlock s.kind with
  | true =>
    rw [plain_statements_stop inBlock s ends, plain_statements_stop inBlock t (same ▸ ends)]
    exact alike_return [] near
  | false =>
    rw [plain_statements_step inBlock s ends, plain_statements_step inBlock t (same ▸ ends)]
    apply (alike_statement law near).onward
    intro first s' t' fewer near
    exact (alike_statements law inBlock near).map (first :: ·)
termination_by (s.size, 2)

theorem alike_statement (law : L.Lawful) {s t : Input} (near : L.inputs s t) :
    L.Alike (plain (statement s)) (plain (statement t)) := by
  have same := law.kind s t near
  by_cases word : s.kind = .keyword .ifWord
  next =>
    rw [plain_statement_conditional s word, plain_statement_conditional t (same ▸ word)]
    apply alike_advance law near (by simp [word])
    intro s' t' fewer near
    apply (alike_chain law .logical near).onward
    intro condition s' t' fewer near
    apply (alike_body law near).onward
    intro block s' t' fewer near
    apply (alike_elifs law near).onward
    intro branches s' t' fewer near
    exact (alike_otherwise law near).map (Stmt.conditional condition block branches)
  next =>
    rw [plain_statement_expression s word, plain_statement_expression t (same ▸ word)]
    exact (alike_assignment law near).map Stmt.expr
termination_by (s.size, 1)

theorem alike_body (law : L.Lawful) {s t : Input} (near : L.inputs s t) :
    L.Alike (plain (body s)) (plain (body t)) := by
  rw [plain_body, plain_body]
  apply alike_skip law near
  intro s' t' fewer near
  apply alike_skip law near
  intro s' t' fewer near
  exact (alike_statements law true near).closed law .rbrace id
termination_by (s.size, 0)

theorem alike_elifs (law : L.Lawful) {s t : Input} (near : L.inputs s t) :
    L.Alike (plain (elifs s)) (plain (elifs t)) := by
  have same := law.kind s t near
  by_cases word : s.kind = .keyword .elifWord
  next =>
    rw [plain_elifs_step s word, plain_elifs_step t (same ▸ word)]
    apply alike_advance law near (by simp [word])
    intro s' t' fewer near
    apply (alike_chain law .logical near).onward
    intro condition s' t' fewer near
    apply (alike_body law near).onward
    intro block s' t' fewer near
    exact (alike_elifs law near).map ((condition, block) :: ·)
  next =>
    rw [plain_elifs_stop s word, plain_elifs_stop t (same ▸ word)]
    exact alike_return [] near
termination_by (s.size, 0)

theorem alike_otherwise (law : L.Lawful) {s t : Input} (near : L.inputs s t) :
    L.Alike (plain (otherwise s)) (plain (otherwise t)) := by
  have same := law.kind s t near
  by_cases word : s.kind = .keyword .elseWord
  next =>
    rw [plain_otherwise_some s word, plain_otherwise_some t (same ▸ word)]
    apply alike_advance law near (by simp [word])
    intro s' t' fewer near
    exact (alike_body law near).map some
  next =>
    rw [plain_otherwise_none s word, plain_otherwise_none t (same ▸ word)]
    exact alike_return none near
termination_by (s.size, 0)

end

end Parser

end TableScript
