import TableScript.Proofs.Syntax.Grammar
import TableScript.Proofs.Syntax.Reading

set_option autoImplicit false

namespace TableScript

theorem Tier.operator?_eq_some_iff (t : Tier) (k : TokenKind) (op : BinaryOperator) :
    t.operator? k = some op ↔ (k, op) ∈ t.signs := by
  constructor
  next =>
    intro h
    unfold operator? at h
    split at h <;> simp_all [signs]
  next =>
    have all : ∀ sign ∈ t.signs, t.operator? sign.1 = some sign.2 := by cases t <;> decide
    exact all (k, op)

theorem Tier.operator?_eq_none_iff (t : Tier) (k : TokenKind) :
    t.operator? k = none ↔ ¬ ∃ op, (k, op) ∈ t.signs := by
  simp only [← operator?_eq_some_iff, ← Option.isSome_iff_exists, Option.not_isSome_iff_eq_none]

theorem UnaryOperator.ofToken?_eq_some_iff (k : TokenKind) (op : UnaryOperator) :
    ofToken? k = some op ↔ (k, op) ∈ signs := by
  constructor
  next =>
    intro h
    unfold ofToken? at h
    split at h <;> simp_all [signs]
  next =>
    have all : ∀ sign ∈ signs, ofToken? sign.1 = some sign.2 := by decide
    exact all (k, op)

namespace Input

inductive Spells : Input → List TokenKind → Prop where
  | done (span : Span) : Spells ⟨⟨.eof, span⟩, []⟩ []
  | more (t : Token) (rest : List Token) (here : t.kind ≠ .eof) (there : ∀ r ∈ rest, r.kind ≠ .eof) :
      Spells ⟨t, rest.map .ok⟩ (t.kind :: rest.map (·.kind))

namespace Spells

variable {s after : Input} {ks : List TokenKind} {k : TokenKind}

theorem ofTokens (ts : List Token) (noEnd : ∀ t ∈ ts, t.kind ≠ .eof) :
    ∃ s, Input.start (ts.map .ok) = .ok s ∧ s.Spells (ts.map (·.kind)) := by
  cases ts with
  | nil => exact ⟨_, rfl, .done _⟩
  | cons t rest =>
    refine ⟨_, rfl, .more t rest (noEnd t (by simp)) fun r there => noEnd r (by simp [there])⟩

theorem kind_nil (view : s.Spells []) : s.kind = .eof := by
  cases view
  rfl

theorem kind_cons (view : s.Spells (k :: ks)) : s.kind = k := by
  cases view
  rfl

theorem ne_eof (view : s.Spells (k :: ks)) : k ≠ .eof := by
  cases view
  assumption

theorem advance (view : s.Spells (k :: ks)) : ∃ after, s.advance = .ok after ∧ after.Spells ks := by
  cases view with
  | more t rest here there =>
    cases rest with
    | nil => exact ⟨_, rfl, .done _⟩
    | cons r rest =>
      refine ⟨_, rfl, .more r rest (there r (by simp)) fun q later => there q (by simp [later])⟩

theorem skip (symbol : Symbol) (view : s.Spells (.symbol symbol :: ks)) :
    ∃ after, s.skip symbol = .ok after ∧ after.Spells ks := by
  have here : s.skip symbol = s.advance := if_pos view.kind_cons
  rw [here]
  exact view.advance

theorem of_advance (view : s.Spells ks) (here : s.kind = k) (more : k ≠ .eof)
    (moved : s.advance = .ok after) : ∃ rest, ks = k :: rest ∧ after.Spells rest := by
  cases ks with
  | nil => exact absurd (here.symm.trans view.kind_nil) more
  | cons first rest =>
    obtain ⟨behind, moves, left⟩ := view.advance
    cases moved.symm.trans moves
    exact ⟨rest, by rw [← here, view.kind_cons], left⟩

theorem of_skip (view : s.Spells ks) (symbol : Symbol) (moved : s.skip symbol = .ok after) :
    ∃ rest, ks = .symbol symbol :: rest ∧ after.Spells rest := by
  unfold Input.skip at moved
  split at moved
  next here => exact view.of_advance here (by simp) moved
  next => cases moved

theorem ends (starts : TokenKind → Prop) (view : s.Spells ks) (other : ¬ starts s.kind) :
    Grammar.Ends starts ks := by
  intro k first
  cases ks with
  | nil => cases first
  | cons head rest =>
    cases first
    rwa [view.kind_cons] at other

theorem not_starts (starts : TokenKind → Prop) (view : s.Spells ks) (last : Grammar.Ends starts ks)
    (ends : ¬ starts .eof) : ¬ starts s.kind := by
  cases ks with
  | nil => rwa [view.kind_nil]
  | cons head rest =>
    rw [view.kind_cons]
    exact last head rfl

end Spells

end Input

namespace Parser

open Grammar

def Finds (part : Part) (ks : List TokenKind) (v : part.Meaning) (after : Input) : Prop :=
  ∃ rest, after.Spells rest ∧ Derives part ks v rest

theorem not_startsStatement {inBlock : Bool} {k : TokenKind} (h : endsStatements inBlock k = true) :
    ¬ startsStatement k := by
  simp only [endsStatements, Bool.or_eq_true, decide_eq_true_eq, Bool.and_eq_true] at h
  rcases h with rfl | ⟨-, rfl⟩ <;> simp [startsStatement, startsExpression]

theorem finds_of_atom (s after : Input) (ks : List TokenKind) (k : TokenKind) (atom e : Expr)
    (view : s.Spells ks) (here : s.kind = k) (more : k ≠ .eof)
    (rule : ∀ rest, Derives .primary (k :: rest) atom rest)
    (h : (s.advance.map fun after => (atom, after)) = .ok (e, after)) : Finds .primary ks e after := by
  rw [map_eq_ok_iff] at h
  obtain ⟨mid, moved, h⟩ := h
  cases h
  obtain ⟨rest, rfl, left⟩ := view.of_advance here more moved
  exact ⟨rest, left, rule rest⟩

-- The measures are those of the reading functions: what is left, then how deep the function stands.
mutual

theorem finds_of_chain (t : Tier) (s after : Input) (ks : List TokenKind) (e : Expr)
    (view : s.Spells ks) (h : plain (chain t s) = .ok (e, after)) : Finds (.chain t) ks e after := by
  rw [plain_chain, bind_eq_ok_iff] at h
  obtain ⟨⟨first, mid⟩, read, h⟩ := h
  have shorter := plain_shorter _ _ _ read
  obtain ⟨between, view, one⟩ := finds_of_operand t s mid ks first view read
  obtain ⟨steps, same, rest, left, others⟩ := finds_of_chainRest t first mid after between e view h
  subst same
  exact ⟨rest, left, .chain one others⟩
termination_by (s.size, 2 * t.depth + 4)

theorem finds_of_chainRest (t : Tier) (left : Expr) (s after : Input) (ks : List TokenKind) (e : Expr)
    (view : s.Spells ks) (h : plain (chainRest t left s) = .ok (e, after)) :
    ∃ steps, grouped left steps = e ∧ Finds (.operations t) ks steps after := by
  cases sign : t.operator? s.kind with
  | none =>
    rw [plain_chainRest_stop t left s sign] at h
    cases h
    rw [Tier.operator?_eq_none_iff] at sign
    exact ⟨[], rfl, ks, view, .noOperation (view.ends _ sign)⟩
  | some op =>
    simp only [plain_chainRest_step t left s op sign, bind_eq_ok_iff] at h
    obtain ⟨mid, moved, ⟨right, mid'⟩, read, h⟩ := h
    have more := ne_eof_of_operator? sign
    have shorter := Input.advance_size_lt s mid moved more
    have shorter' := plain_shorter _ _ _ read
    obtain ⟨behind, rfl, there⟩ := view.of_advance rfl more moved
    obtain ⟨between, there, one⟩ := finds_of_operand t mid mid' behind right there read
    obtain ⟨steps, same, rest, there, others⟩ :=
      finds_of_chainRest t (.binary op left right) mid' after between e there h
    rw [Tier.operator?_eq_some_iff] at sign
    -- `left` already holds what was read before, so the step goes in front of the later ones
    exact ⟨(op, right) :: steps, same, rest, there, .operation sign one others⟩
termination_by (s.size, 0)

theorem finds_of_operand (t : Tier) (s after : Input) (ks : List TokenKind) (e : Expr)
    (view : s.Spells ks) (h : plain (operand t s) = .ok (e, after)) :
    Finds (.operand t) ks e after := by
  rw [plain_operand] at h
  cases t with
  | logical =>
    obtain ⟨rest, left, one⟩ := finds_of_chain .comparison s after ks e view h
    exact ⟨rest, left, .logicalOperand one⟩
  | comparison =>
    obtain ⟨rest, left, one⟩ := finds_of_chain .additive s after ks e view h
    exact ⟨rest, left, .comparisonOperand one⟩
  | additive =>
    obtain ⟨rest, left, one⟩ := finds_of_chain .multiplicative s after ks e view h
    exact ⟨rest, left, .additiveOperand one⟩
  | multiplicative =>
    obtain ⟨rest, left, one⟩ := finds_of_factor s after ks e view h
    exact ⟨rest, left, .multiplicativeOperand one⟩
termination_by (s.size, 2 * t.depth + 3)

theorem finds_of_factor (s after : Input) (ks : List TokenKind) (e : Expr) (view : s.Spells ks)
    (h : plain (factor s) = .ok (e, after)) : Finds .factor ks e after := by
  rw [plain_factor, bind_eq_ok_iff] at h
  obtain ⟨⟨first, mid⟩, read, h⟩ := h
  have shorter := plain_shorter _ _ _ read
  obtain ⟨between, there, one⟩ := finds_of_primary s mid ks first view read
  obtain ⟨positions, same, rest, there, others⟩ :=
    finds_of_subscripts first mid after between e there h
  subst same
  exact ⟨rest, there, .factor one others⟩
termination_by (s.size, 2)

theorem finds_of_subscripts (container : Expr) (s after : Input) (ks : List TokenKind) (e : Expr)
    (view : s.Spells ks) (h : plain (subscripts container s) = .ok (e, after)) :
    ∃ positions, positions.foldl Expr.index container = e ∧ Finds .subscripts ks positions after := by
  by_cases here : s.kind = .symbol .lbracket
  next =>
    simp only [plain_subscripts_step container s here, bind_eq_ok_iff] at h
    obtain ⟨mid, moved, ⟨position, mid'⟩, read, close, skipped, h⟩ := h
    have shorter := Input.advance_size_lt s mid moved (ne_eof here (by simp))
    have shorter' := plain_shorter _ _ _ read
    have shorter'' := Input.skip_size_lt mid' close _ skipped
    obtain ⟨behind, rfl, there⟩ := view.of_advance here (by simp) moved
    obtain ⟨between, there, inner⟩ := finds_of_chain .logical mid mid' behind position there read
    obtain ⟨between', rfl, closed⟩ := there.of_skip .rbracket skipped
    obtain ⟨positions, same, rest, left, others⟩ :=
      finds_of_subscripts (.index container position) close after between' e closed h
    exact ⟨position :: positions, same, rest, left, .subscript inner others⟩
  next =>
    rw [plain_subscripts_stop container s here] at h
    cases h
    exact ⟨[], rfl, ks, view, .noSubscript (view.ends _ here)⟩
termination_by (s.size, 0)

theorem finds_of_primary (s after : Input) (ks : List TokenKind) (e : Expr) (view : s.Spells ks)
    (h : plain (primary s) = .ok (e, after)) : Finds .primary ks e after := by
  rw [plain_primary] at h
  generalize here : s.kind = kind at h
  unfold primaryAt at h
  split at h
  next op sign =>
    simp only [bind_eq_ok_iff, map_eq_ok_iff] at h
    obtain ⟨mid, moved, ⟨value, mid'⟩, read, h⟩ := h
    cases h
    have more : kind ≠ .eof := here ▸ ne_eof_of_unary (s := s) (here ▸ sign)
    have shorter := Input.advance_size_lt s mid moved (here ▸ more)
    obtain ⟨behind, rfl, there⟩ := view.of_advance here more moved
    obtain ⟨rest, left, operand⟩ := finds_of_factor mid mid' behind value there read
    rw [UnaryOperator.ofToken?_eq_some_iff] at sign
    exact ⟨rest, left, .unary sign operand⟩
  next none =>
    split at h
    next => exact finds_of_atom s after ks _ _ e view here (by simp) (fun _ => .int) h
    next => exact finds_of_atom s after ks _ _ e view here (by simp) (fun _ => .trueWord) h
    next => exact finds_of_atom s after ks _ _ e view here (by simp) (fun _ => .falseWord) h
    next => exact finds_of_atom s after ks _ _ e view here (by simp) (fun _ => .str) h
    next =>
      simp only [bind_eq_ok_iff, map_eq_ok_iff] at h
      obtain ⟨mid, moved, ⟨all, mid'⟩, read, close, skipped, h⟩ := h
      cases h
      have shorter := Input.advance_size_lt s mid moved (ne_eof here (by simp))
      obtain ⟨behind, rfl, there⟩ := view.of_advance here (by simp) moved
      obtain ⟨between, there, inner⟩ := finds_of_entries mid mid' behind all there read
      obtain ⟨rest, rfl, left⟩ := there.of_skip .rbrace skipped
      exact ⟨rest, left, .dict inner⟩
    next =>
      simp only [bind_eq_ok_iff, map_eq_ok_iff] at h
      obtain ⟨mid, moved, ⟨e, mid'⟩, read, close, skipped, h⟩ := h
      cases h
      have shorter := Input.advance_size_lt s mid moved (ne_eof here (by simp))
      obtain ⟨behind, rfl, there⟩ := view.of_advance here (by simp) moved
      obtain ⟨between, there, inner⟩ := finds_of_chain .logical mid mid' behind e there read
      obtain ⟨rest, rfl, left⟩ := there.of_skip .rparen skipped
      exact ⟨rest, left, .parenthesized inner⟩
    next name =>
      rw [bind_eq_ok_iff] at h
      obtain ⟨mid, moved, h⟩ := h
      have shorter := Input.advance_size_lt s mid moved (ne_eof here (by simp))
      obtain ⟨behind, rfl, there⟩ := view.of_advance here (by simp) moved
      exact finds_of_named name mid after behind e there h
    next =>
      -- no expression starts here, and the refusal is no result
      rw [bind_eq_ok_iff] at h
      obtain ⟨mid, moved, h⟩ := h
      cases h
termination_by (s.size, 1)

theorem finds_of_named (name : String) (s after : Input) (ks : List TokenKind) (e : Expr)
    (view : s.Spells ks) (h : plain (named name s) = .ok (e, after)) :
    Finds .primary (.identifier name :: ks) e after := by
  by_cases assign : s.kind = .symbol .assign
  next =>
    simp only [plain_named_assign name s assign, bind_eq_ok_iff, map_eq_ok_iff] at h
    obtain ⟨mid, moved, ⟨value, mid'⟩, read, h⟩ := h
    cases h
    have shorter := Input.advance_size_lt s mid moved (ne_eof assign (by simp))
    obtain ⟨behind, rfl, there⟩ := view.of_advance assign (by simp) moved
    obtain ⟨rest, left, inner⟩ := finds_of_chain .logical mid mid' behind value there read
    exact ⟨rest, left, .namedAssign inner⟩
  next =>
    by_cases paren : s.kind = .symbol .lparen
    next =>
      simp only [plain_named_call name s paren, bind_eq_ok_iff, map_eq_ok_iff] at h
      obtain ⟨mid, moved, ⟨args, mid'⟩, read, h⟩ := h
      cases h
      have shorter := Input.advance_size_lt s mid moved (ne_eof paren (by simp))
      obtain ⟨behind, rfl, there⟩ := view.of_advance paren (by simp) moved
      obtain ⟨rest, left, inner⟩ := finds_of_arguments mid mid' behind args there read
      exact ⟨rest, left, .call inner⟩
    next =>
      rw [plain_named_var name s assign paren] at h
      cases h
      exact ⟨ks, view, .var (view.ends _ (by simp [assign, paren]))⟩
termination_by (s.size, 0)

theorem finds_of_arguments (s after : Input) (ks : List TokenKind) (args : List Expr)
    (view : s.Spells ks) (h : plain (arguments s) = .ok (args, after)) :
    ∃ rest, after.Spells rest ∧ Derives .arguments ks args (.symbol .rparen :: rest) := by
  by_cases close : s.kind = .symbol .rparen
  next =>
    rw [plain_arguments_none s close, map_eq_ok_iff] at h
    obtain ⟨mid, moved, h⟩ := h
    cases h
    obtain ⟨rest, rfl, left⟩ := view.of_advance close (by simp) moved
    exact ⟨rest, left, .noArgument (view.ends _ (by simp [close, startsExpression]))⟩
  next =>
    simp only [plain_arguments_some s close, bind_eq_ok_iff, map_eq_ok_iff] at h
    obtain ⟨⟨first, mid⟩, read, ⟨more, mid'⟩, read', last, skipped, h⟩ := h
    cases h
    have shorter := plain_shorter _ _ _ read
    obtain ⟨between, there, one⟩ := finds_of_chain .logical s mid ks first view read
    obtain ⟨between', there, others⟩ := finds_of_moreArguments mid mid' between more there read'
    obtain ⟨rest, rfl, left⟩ := there.of_skip .rparen skipped
    exact ⟨rest, left, .arguments one others⟩
termination_by (s.size, 11)

theorem finds_of_moreArguments (s after : Input) (ks : List TokenKind) (args : List Expr)
    (view : s.Spells ks) (h : plain (moreArguments s) = .ok (args, after)) :
    Finds .moreArguments ks args after := by
  by_cases comma : s.kind = .symbol .comma
  next =>
    simp only [plain_moreArguments_step s comma, bind_eq_ok_iff, map_eq_ok_iff] at h
    obtain ⟨mid, moved, ⟨arg, mid'⟩, read, ⟨more, last⟩, read', h⟩ := h
    cases h
    have shorter := Input.advance_size_lt s mid moved (ne_eof comma (by simp))
    have shorter' := plain_shorter _ _ _ read
    obtain ⟨behind, rfl, there⟩ := view.of_advance comma (by simp) moved
    obtain ⟨between, there, one⟩ := finds_of_chain .logical mid mid' behind arg there read
    obtain ⟨rest, left, others⟩ := finds_of_moreArguments mid' last between more there read'
    exact ⟨rest, left, .more one others⟩
  next =>
    rw [plain_moreArguments_stop s comma] at h
    cases h
    exact ⟨ks, view, .noMore (view.ends _ comma)⟩
termination_by (s.size, 0)

theorem finds_of_entries (s after : Input) (ks : List TokenKind) (all : List (Expr × Expr))
    (view : s.Spells ks) (h : plain (entries s) = .ok (all, after)) : Finds .entries ks all after := by
  by_cases close : s.kind = .symbol .rbrace
  next =>
    rw [plain_entries_stop s close] at h
    cases h
    exact ⟨ks, view, .noEntry (view.ends _ (by simp [close, startsExpression]))⟩
  next =>
    simp only [plain_entries_step s close, bind_eq_ok_iff] at h
    obtain ⟨⟨key, mid⟩, read, colon, skipped, ⟨value, mid'⟩, read', h⟩ := h
    have shorter := plain_shorter _ _ _ read
    have shorter' := Input.skip_size_lt mid colon _ skipped
    have shorter'' := plain_shorter _ _ _ read'
    obtain ⟨between, there, one⟩ := finds_of_chain .additive s mid ks key view read
    obtain ⟨between', rfl, there'⟩ := there.of_skip .colon skipped
    obtain ⟨between'', there'', two⟩ :=
      finds_of_chain .additive colon mid' between' value there' read'
    split at h
    next comma =>
      simp only [bind_eq_ok_iff, map_eq_ok_iff] at h
      obtain ⟨next, moved, ⟨more, last⟩, reads, h⟩ := h
      cases h
      have shorter := Input.advance_size_lt mid' next moved (ne_eof comma (by simp))
      obtain ⟨behind, rfl, beyond⟩ := there''.of_advance comma (by simp) moved
      obtain ⟨rest, left, others⟩ := finds_of_entries next last behind more beyond reads
      exact ⟨rest, left, .entry one two others⟩
    next other =>
      cases h
      exact ⟨between'', there'', .lastEntry one two (there''.ends _ other)⟩
termination_by (s.size, 11)

end

theorem finds_of_assignment (s after : Input) (ks : List TokenKind) (e : Expr) (view : s.Spells ks)
    (h : plain (assignment s) = .ok (e, after)) : Finds .assignment ks e after := by
  rw [plain_assignment, bind_eq_ok_iff] at h
  obtain ⟨⟨left, mid⟩, read, h⟩ := h
  have shorter := plain_shorter _ _ _ read
  obtain ⟨between, there, one⟩ := finds_of_chain .logical s mid ks left view read
  split at h
  next here =>
    dsimp only at here h
    split at h
    next target =>
      simp only [bind_eq_ok_iff, map_eq_ok_iff] at h
      obtain ⟨next, moved, ⟨value, last⟩, read', h⟩ := h
      cases h
      have shorter' := Input.advance_size_lt mid next moved (ne_eof here (by simp))
      obtain ⟨behind, rfl, beyond⟩ := there.of_advance here (by simp) moved
      obtain ⟨rest, left, right⟩ := finds_of_assignment next last behind value beyond read'
      exact ⟨rest, left, .assign one right⟩
    -- only a variable may stand on the left
    next => cases h
  next other =>
    cases h
    exact ⟨between, there, .plain one (there.ends _ other)⟩
termination_by s.size

mutual

theorem finds_of_statements (inBlock : Bool) (s after : Input) (ks : List TokenKind)
    (all : List Stmt) (view : s.Spells ks) (h : plain (statements inBlock s) = .ok (all, after)) :
    endsStatements inBlock after.kind = true ∧ Finds .statements ks all after := by
  cases stop : endsStatements inBlock s.kind with
  | true =>
    rw [plain_statements_stop inBlock s stop] at h
    cases h
    exact ⟨stop, ks, view, .noStatement (view.ends _ (not_startsStatement stop))⟩
  | false =>
    simp only [plain_statements_step inBlock s stop, bind_eq_ok_iff, map_eq_ok_iff] at h
    obtain ⟨⟨first, mid⟩, read, ⟨more, last⟩, read', h⟩ := h
    cases h
    have shorter := plain_shorter _ _ _ read
    obtain ⟨between, there, one⟩ := finds_of_statement s mid ks first view read
    obtain ⟨stops, rest, left, others⟩ :=
      finds_of_statements inBlock mid last between more there read'
    exact ⟨stops, rest, left, .statements one others⟩
termination_by (s.size, 2)

theorem finds_of_statement (s after : Input) (ks : List TokenKind) (stmt : Stmt) (view : s.Spells ks)
    (h : plain (statement s) = .ok (stmt, after)) : Finds .statement ks stmt after := by
  by_cases here : s.kind = .keyword .ifWord
  next =>
    simp only [plain_statement_conditional s here, bind_eq_ok_iff, map_eq_ok_iff] at h
    obtain ⟨word, moved, ⟨condition, mid⟩, test, ⟨block, mid'⟩, inner, ⟨branches, mid''⟩, others,
      ⟨otherwise, last⟩, final, h⟩ := h
    cases h
    have behindWord := Input.advance_size_lt s word moved (ne_eof here (by simp))
    have behindTest : mid.size < word.size := plain_shorter _ _ _ test
    have behindBlock : mid'.size < mid.size := plain_shorter _ _ _ inner
    have behindBranches : mid''.size < mid'.size + 1 := plain_shorter _ _ _ others
    obtain ⟨behind, rfl, there⟩ := view.of_advance here (by simp) moved
    obtain ⟨between, there, one⟩ := finds_of_chain .logical word mid behind condition there test
    obtain ⟨opens, rfl, between', there', two⟩ := finds_of_body mid mid' between block there inner
    obtain ⟨between'', there'', three⟩ := finds_of_elifs mid' mid'' between' branches there' others
    obtain ⟨rest, left, four⟩ := finds_of_otherwise mid'' last between'' otherwise there'' final
    exact ⟨rest, left, .conditional one two three four⟩
  next =>
    rw [plain_statement_expression s here, map_eq_ok_iff] at h
    obtain ⟨⟨e, last⟩, read, h⟩ := h
    cases h
    obtain ⟨rest, left, one⟩ := finds_of_assignment s last ks e view read
    exact ⟨rest, left, .expression one⟩
termination_by (s.size, 1)

theorem finds_of_body (s after : Input) (ks : List TokenKind) (all : List Stmt) (view : s.Spells ks)
    (h : plain (body s) = .ok (all, after)) :
    ∃ mid, ks = .symbol .colon :: mid ∧ Finds .block mid all after := by
  simp only [plain_body, bind_eq_ok_iff, map_eq_ok_iff] at h
  obtain ⟨colon, skipped, brace, skipped', ⟨inner, mid⟩, read, close, skipped'', h⟩ := h
  cases h
  have behindColon := Input.skip_size_lt s colon _ skipped
  have behindBrace := Input.skip_size_lt colon brace _ skipped'
  obtain ⟨between, rfl, there⟩ := view.of_skip .colon skipped
  obtain ⟨between', rfl, there'⟩ := there.of_skip .lbrace skipped'
  obtain ⟨-, between'', there'', one⟩ := finds_of_statements true brace mid between' inner there' read
  obtain ⟨rest, rfl, left⟩ := there''.of_skip .rbrace skipped''
  exact ⟨_, rfl, rest, left, .block one⟩
termination_by (s.size, 0)

theorem finds_of_elifs (s after : Input) (ks : List TokenKind) (all : List (Expr × List Stmt))
    (view : s.Spells ks) (h : plain (elifs s) = .ok (all, after)) : Finds .elifs ks all after := by
  by_cases here : s.kind = .keyword .elifWord
  next =>
    simp only [plain_elifs_step s here, bind_eq_ok_iff, map_eq_ok_iff] at h
    obtain ⟨word, moved, ⟨condition, mid⟩, test, ⟨block, mid'⟩, inner, ⟨more, last⟩, others, h⟩ := h
    cases h
    have behindWord := Input.advance_size_lt s word moved (ne_eof here (by simp))
    have behindTest : mid.size < word.size := plain_shorter _ _ _ test
    have behindBlock : mid'.size < mid.size := plain_shorter _ _ _ inner
    obtain ⟨behind, rfl, there⟩ := view.of_advance here (by simp) moved
    obtain ⟨between, there, one⟩ := finds_of_chain .logical word mid behind condition there test
    obtain ⟨opens, rfl, between', there', two⟩ := finds_of_body mid mid' between block there inner
    obtain ⟨rest, left, three⟩ := finds_of_elifs mid' last between' more there' others
    exact ⟨rest, left, .elif one two three⟩
  next =>
    rw [plain_elifs_stop s here] at h
    cases h
    exact ⟨ks, view, .noElif (view.ends _ here)⟩
termination_by (s.size, 0)

theorem finds_of_otherwise (s after : Input) (ks : List TokenKind) (all : Option (List Stmt))
    (view : s.Spells ks) (h : plain (otherwise s) = .ok (all, after)) :
    Finds .otherwise ks all after := by
  by_cases here : s.kind = .keyword .elseWord
  next =>
    simp only [plain_otherwise_some s here, bind_eq_ok_iff, map_eq_ok_iff] at h
    obtain ⟨word, moved, ⟨block, last⟩, inner, h⟩ := h
    cases h
    have behindWord := Input.advance_size_lt s word moved (ne_eof here (by simp))
    obtain ⟨behind, rfl, there⟩ := view.of_advance here (by simp) moved
    obtain ⟨opens, rfl, rest, left, one⟩ := finds_of_body word last behind block there inner
    exact ⟨rest, left, .otherwise one⟩
  next =>
    rw [plain_otherwise_none s here] at h
    cases h
    exact ⟨ks, view, .noElse (view.ends _ here)⟩
termination_by (s.size, 0)

end

end Parser

end TableScript
