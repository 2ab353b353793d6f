import TableScript.Proofs.Syntax.Settled

set_option autoImplicit false

namespace TableScript

namespace Parser

open Input

def Closes (k : TokenKind) : Prop :=
  k ∈ [.eof, .symbol .rparen, .symbol .rbracket, .symbol .rbrace, .symbol .colon]

namespace Closes

variable {k : TokenKind}

theorem operator? (t : Tier) (h : Closes k) : t.operator? k = none := by
  simp only [Closes, List.mem_cons, List.not_mem_nil, or_false] at h
  rcases h with rfl | rfl | rfl | rfl | rfl <;> cases t <;> rfl

theorem ne {other : TokenKind} (h : Closes k) (opens : ¬ Closes other) : k ≠ other := by
  rintro rfl
  exact opens h

theorem of_endsStatements {inBlock : Bool} (h : endsStatements inBlock k = true) : Closes k := by
  simp only [endsStatements, Bool.or_eq_true, decide_eq_true_eq, Bool.and_eq_true] at h
  rcases h with rfl | ⟨-, rfl⟩ <;> simp [Closes]

end Closes

def assignmentRest (left : Expr) (s : Input) : Plain Expr :=
  if s.kind = .symbol .assign then
    match left with
    | .var target => s.advance.bind fun after =>
      (plain (assignment after)).map fun value => (.assign target value.1, value.2)
    | _ => .error (.invalidAssignmentTarget s.current.span.line s.current.span.column)
  else .ok (left, s)

theorem plain_assignment_rest (s : Input) :
    plain (assignment s) = (plain (chain .logical s)).bind fun left => assignmentRest left.1 left.2 :=
  plain_assignment s

theorem assignmentRest_stop (left : Expr) (s : Input) (h : s.kind ≠ .symbol .assign) :
    assignmentRest left s = .ok (left, s) :=
  if_neg h

theorem assignmentRest_var (target : String) (s : Input) (h : s.kind = .symbol .assign) :
    assignmentRest (.var target) s = s.advance.bind fun after =>
      (plain (assignment after)).map fun value => (.assign target value.1, value.2) :=
  if_pos h

theorem assignmentRest_invalid (left : Expr) (s : Input) (h : s.kind = .symbol .assign)
    (other : ∀ target, left ≠ .var target) :
    assignmentRest left s =
      .error (.invalidAssignmentTarget s.current.span.line s.current.span.column) := by
  unfold assignmentRest
  rw [if_pos h]
  cases left with
  | var target => exact absurd rfl (other target)
  | _ => rfl

def entriesRest (key value : Expr) (s : Input) : Plain (List (Expr × Expr)) :=
  if s.kind = .symbol .comma then
    s.advance.bind fun comma =>
      (plain (entries comma)).map fun more => ((key, value) :: more.1, more.2)
  else .ok ([(key, value)], s)

theorem entriesRest_stop (key value : Expr) (s : Input) (h : s.kind ≠ .symbol .comma) :
    entriesRest key value s = .ok ([(key, value)], s) :=
  if_neg h

theorem entriesRest_step (key value : Expr) (s : Input) (h : s.kind = .symbol .comma) :
    entriesRest key value s = s.advance.bind fun comma =>
      (plain (entries comma)).map fun more => ((key, value) :: more.1, more.2) :=
  if_pos h

theorem entriesRest_size_le (key value : Expr) (s rest : Input) (all : List (Expr × Expr))
    (h : entriesRest key value s = .ok (all, rest)) : rest.size ≤ s.size := by
  by_cases comma : s.kind = .symbol .comma
  next =>
    rw [entriesRest_step key value s comma, bind_eq_ok_iff] at h
    obtain ⟨after, moved, h⟩ := h
    obtain ⟨more, read, h⟩ := (map_eq_ok_iff _ _ _).mp h
    cases h
    have one := advance_size_lt s after moved (by simp [comma])
    have two := plain_shorter _ _ _ read
    omega
  next =>
    rw [entriesRest_stop key value s comma] at h
    cases h
    exact Nat.le_refl _

theorem plain_entries_shorter (s rest : Input) (all : List (Expr × Expr))
    (h : s.kind ≠ .symbol .rbrace) (read : plain (entries s) = .ok (all, rest)) :
    rest.size < s.size := by
  rw [plain_entries_step s h, bind_eq_ok_iff] at read
  obtain ⟨key, first, read⟩ := read
  obtain ⟨colon, skipped, read⟩ := (bind_eq_ok_iff _ _ _).mp read
  obtain ⟨value, second, read⟩ := (bind_eq_ok_iff _ _ _).mp read
  have := plain_shorter _ _ _ first
  have := skip_size_lt _ _ _ skipped
  have := plain_shorter _ _ _ second
  have := entriesRest_size_le key.1 value.1 value.2 rest all read
  omega

theorem plain_statements_shorter (inBlock : Bool) (s rest : Input) (all : List Stmt)
    (h : endsStatements inBlock s.kind = false)
    (read : plain (statements inBlock s) = .ok (all, rest)) : rest.size < s.size := by
  rw [plain_statements_step inBlock s h, bind_eq_ok_iff] at read
  obtain ⟨first, one, read⟩ := read
  obtain ⟨more, two, read⟩ := (map_eq_ok_iff _ _ _).mp read
  cases read
  have := plain_shorter _ _ _ one
  have := plain_shorter _ _ _ two
  omega

inductive PrimaryRest : (Input → Plain Expr) → Prop where
  | atom (e : Expr) : PrimaryRest fun after => .ok (e, after)
  | unary (op : UnaryOperator) : PrimaryRest fun after =>
      (plain (factor after)).map fun operand => (.unary op operand.1, operand.2)
  | dict : PrimaryRest fun after => (plain (entries after)).bind fun all =>
      (all.2.skip .rbrace).map fun close => (.dict all.1, close)
  | paren : PrimaryRest fun after => (plain (chain .logical after)).bind fun inner =>
      (inner.2.skip .rparen).map fun close => (inner.1, close)
  | named (name : String) : PrimaryRest fun after => plain (named name after)

theorem primaryAt_cases (k : TokenKind) :
    (∃ g, PrimaryRest g ∧ k ≠ .eof ∧ ∀ s, primaryAt s k = s.advance.bind g) ∨
      ∀ s, primaryAt s k = s.advance.bind fun _ => s.unexpected .expression := by
  cases k with
  | identifier name => exact .inl ⟨_, .named name, by simp, fun _ => rfl⟩
  | integer n => exact .inl ⟨_, .atom (.int n), by simp, fun _ => rfl⟩
  | string text => exact .inl ⟨_, .atom (.str text), by simp, fun _ => rfl⟩
  | keyword word =>
    cases word with
    | notWord => exact .inl ⟨_, .unary .not, by simp, fun _ => rfl⟩
    | trueWord => exact .inl ⟨_, .atom (.bool true), by simp, fun _ => rfl⟩
    | falseWord => exact .inl ⟨_, .atom (.bool false), by simp, fun _ => rfl⟩
    | _ => exact .inr fun _ => rfl
  | symbol sign =>
    cases sign with
    | plus => exact .inl ⟨_, .unary .plus, by simp, fun _ => rfl⟩
    | minus => exact .inl ⟨_, .unary .minus, by simp, fun _ => rfl⟩
    | lbrace => exact .inl ⟨_, .dict, by simp, fun _ => rfl⟩
    | lparen => exact .inl ⟨_, .paren, by simp, fun _ => rfl⟩
    | _ => exact .inr fun _ => rfl
  | eof => exact .inr fun _ => rfl

section Finishing

variable {first stops : TokenKind → Prop}

theorem rests_chainRest (t : Tier) (left : Expr) :
    Rests Closes (t.operator? · = none) left fun s => plain (chainRest t left s) :=
  ⟨plain_chainRest_stop t left, fun _ stop => stop.operator? t⟩

theorem rests_subscripts (container : Expr) :
    Rests Closes (· ≠ .symbol .lbracket) container fun s => plain (subscripts container s) :=
  ⟨plain_subscripts_stop container, fun _ stop => stop.ne (by simp [Closes])⟩

theorem rests_named (name : String) :
    Rests Closes (fun k => k ≠ .symbol .assign ∧ k ≠ .symbol .lparen) (.var name)
      fun s => plain (named name s) :=
  ⟨fun s ends => plain_named_var name s ends.1 ends.2,
    fun _ stop => ⟨stop.ne (by simp [Closes]), stop.ne (by simp [Closes])⟩⟩

theorem rests_moreArguments : Rests Closes (· ≠ .symbol .comma) [] fun s => plain (moreArguments s) :=
  ⟨plain_moreArguments_stop, fun _ stop => stop.ne (by simp [Closes])⟩

theorem rests_elifs : Rests Closes (· ≠ .keyword .elifWord) [] fun s => plain (elifs s) :=
  ⟨plain_elifs_stop, fun _ stop => stop.ne (by simp [Closes])⟩

theorem rests_otherwise : Rests Closes (· ≠ .keyword .elseWord) none fun s => plain (otherwise s) :=
  ⟨plain_otherwise_none, fun _ stop => stop.ne (by simp [Closes])⟩

theorem rests_assignmentRest (left : Expr) :
    Rests Closes (· ≠ .symbol .assign) left (assignmentRest left) :=
  ⟨assignmentRest_stop left, fun _ stop => stop.ne (by simp [Closes])⟩

-- an entry or a statement is tried at every kind but those that end all of them, so these two stop
-- at fewer kinds than the others
theorem rests_entries :
    Rests (· = .symbol .rbrace) (· = .symbol .rbrace) [] fun s => plain (entries s) :=
  ⟨plain_entries_stop, fun _ stop => stop⟩

theorem rests_entriesRest (key value : Expr) :
    Rests (· = .symbol .rbrace) (· ≠ .symbol .comma) [(key, value)] (entriesRest key value) :=
  ⟨entriesRest_stop key value, fun _ stop => by simp [stop]⟩

theorem rests_statements (inBlock : Bool) :
    Rests (endsStatements inBlock · = true) (endsStatements inBlock · = true) []
      fun s => plain (statements inBlock s) :=
  ⟨plain_statements_stop inBlock, fun _ stop => stop⟩

theorem finishes_primary (starts : first (.integer 0)) :
    Finishes first stops fun s => plain (primary s) := by
  intro last
  refine ⟨[⟨.integer 0, default⟩], .int 0, by simp, fun rest _ => ⟨starts, ?_⟩⟩
  have here := plain_primary (behind last (⟨.integer 0, default⟩ :: rest))
  rw [kind_behind] at here
  exact here.trans (congrArg (Except.map _) (advance_behind last _ rest))

theorem finishes_factor (starts : first (.integer 0)) :
    Finishes first Closes fun s => plain (factor s) := by
  rw [funext plain_factor]
  exact (finishes_primary starts).bind fun e => (rests_subscripts e).finishes

theorem finishes_chain_of_operand {t : Tier} (h : Finishes first Closes fun s => plain (operand t s)) :
    Finishes first Closes fun s => plain (chain t s) := by
  rw [funext (plain_chain t)]
  exact h.bind fun left => (rests_chainRest t left).finishes

theorem finishes_chain (starts : first (.integer 0)) (t : Tier) :
    Finishes first Closes fun s => plain (chain t s) := by
  have multiplicative : Finishes first Closes fun s => plain (chain .multiplicative s) := by
    apply finishes_chain_of_operand
    rw [funext (plain_operand .multiplicative)]
    exact finishes_factor starts
  have additive : Finishes first Closes fun s => plain (chain .additive s) := by
    apply finishes_chain_of_operand
    rwa [funext (plain_operand .additive)]
  have comparison : Finishes first Closes fun s => plain (chain .comparison s) := by
    apply finishes_chain_of_operand
    rwa [funext (plain_operand .comparison)]
  have logical : Finishes first Closes fun s => plain (chain .logical s) := by
    apply finishes_chain_of_operand
    rwa [funext (plain_operand .logical)]
  cases t <;> assumption

theorem finishes_arguments : Finishes (· = .symbol .rparen) stops fun s => plain (arguments s) := by
  have close : Finishes (· = .symbol .rparen) stops fun s =>
      (s.skip .rparen).map fun close => (([] : List Expr), close) :=
    finishes_skip_return .rparen [] rfl
  apply close.congr_first
  intro s here
  rw [plain_arguments_none s here, Input.skip, if_pos here]

theorem finishes_entriesRest (key value : Expr) :
    Finishes Closes (· = .symbol .rbrace) (entriesRest key value) :=
  (rests_entriesRest key value).finishes.mono fun _ brace => by simp [brace, Closes]

theorem finishes_statement : Finishes (· = .integer 0) Closes fun s => plain (statement s) := by
  have left : Finishes (· = .integer 0) Closes fun s => plain (chain .logical s) :=
    finishes_chain (by rfl) .logical
  have assignment : Finishes (· = .integer 0) Closes fun s => plain (assignment s) := by
    rw [funext plain_assignment_rest]
    exact left.bind fun e => (rests_assignmentRest e).finishes
  apply (assignment.map Stmt.expr).congr_first
  intro s here
  exact plain_statement_expression s (by simp [here])

theorem finishes_body : Finishes Closes stops fun s => plain (body s) := by
  rw [funext plain_body]
  apply finishes_skip .colon (by simp [Closes])
  apply finishes_skip .lbrace trivial
  exact ((rests_statements true).finishes.closed .rbrace rfl id).anyhow

end Finishing

end Parser

end TableScript
