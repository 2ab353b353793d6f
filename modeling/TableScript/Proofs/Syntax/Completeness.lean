import TableScript.Proofs.Syntax.Soundness

set_option autoImplicit false

namespace TableScript

namespace Parser

open Grammar

def Gives {α : Type} (f : Input → Plain α) (ts : List TokenKind) (v : α) (rest : List TokenKind) :
    Prop :=
  ∀ s, s.Spells ts → ∃ after, after.Spells rest ∧ f s = .ok (v, after)

def Reads : (part : Part) → List TokenKind → part.Meaning → List TokenKind → Prop
  | .statements, ts, all, rest =>
    ∀ inBlock, endsStatements inBlock (rest.headD .eof) = true →
      Gives (fun s => plain (statements inBlock s)) ts all rest
  | .statement, ts, stmt, rest => Gives (fun s => plain (statement s)) ts stmt rest
  | .block, ts, all, rest => Gives (fun s => plain (body s)) (.symbol .colon :: ts) all rest
  | .elifs, ts, all, rest => Gives (fun s => plain (elifs s)) ts all rest
  | .otherwise, ts, all, rest => Gives (fun s => plain (otherwise s)) ts all rest
  | .assignment, ts, e, rest => Gives (fun s => plain (assignment s)) ts e rest
  | .chain t, ts, e, rest => Gives (fun s => plain (chain t s)) ts e rest
  | .operations t, ts, steps, rest =>
    ∀ left, Gives (fun s => plain (chainRest t left s)) ts (grouped left steps) rest
  | .operand t, ts, e, rest => Gives (fun s => plain (operand t s)) ts e rest
  | .factor, ts, e, rest => Gives (fun s => plain (factor s)) ts e rest
  | .subscripts, ts, positions, rest =>
    ∀ container, Gives (fun s => plain (subscripts container s)) ts
      (positions.foldl Expr.index container) rest
  | .primary, ts, e, rest => Gives (fun s => plain (primary s)) ts e rest
  | .entries, ts, all, rest =>
    rest.head? = some (.symbol .rbrace) → Gives (fun s => plain (entries s)) ts all rest
  | .arguments, ts, args, rest =>
    ∀ behind, rest = .symbol .rparen :: behind →
      Gives (fun s => plain (arguments s)) ts args behind
  | .moreArguments, ts, args, rest => Gives (fun s => plain (moreArguments s)) ts args rest

section

variable {ts mid mid' mid'' rest : List TokenKind} {t : Tier} {e : Expr}

theorem reads_chain (steps : List (BinaryOperator × Expr)) (first : Reads (.operand t) ts e mid)
    (others : Reads (.operations t) mid steps rest) : Reads (.chain t) ts (grouped e steps) rest := by
  intro s view
  obtain ⟨between, there, read⟩ := first s view
  obtain ⟨after, left, read'⟩ := others e between there
  exact ⟨after, left, by simp only [plain_chain, read, Except.bind, read']⟩

theorem reads_noOperation (last : Ends (fun k => ∃ op, (k, op) ∈ t.signs) rest) :
    Reads (.operations t) rest [] rest := by
  intro left s view
  have none : t.operator? s.kind = none := by
    -- neither the next token nor the end of the tokens is a sign of the tier
    rw [Tier.operator?_eq_none_iff]
    refine view.not_starts _ last ?_
    rw [← Tier.operator?_eq_none_iff]
    exact t.operator?_eof
  exact ⟨s, view, plain_chainRest_stop t left s none⟩

theorem reads_operation (k : TokenKind) (op : BinaryOperator) (steps : List (BinaryOperator × Expr))
    (sign : (k, op) ∈ t.signs) (operand : Reads (.operand t) ts e mid)
    (others : Reads (.operations t) mid steps rest) :
    Reads (.operations t) (k :: ts) ((op, e) :: steps) rest := by
  intro left s view
  have here : t.operator? s.kind = some op := by
    rwa [view.kind_cons, Tier.operator?_eq_some_iff]
  obtain ⟨next, moved, there⟩ := view.advance
  obtain ⟨between, there, read⟩ := operand next there
  obtain ⟨after, rest, read'⟩ := others (.binary op left e) between there
  refine ⟨after, rest, ?_⟩
  simp only [plain_chainRest_step t left s op here, moved, Except.bind, read, read']
  rfl

theorem reads_operand (h : match t with
      | .logical => Reads (.chain .comparison) ts e rest
      | .comparison => Reads (.chain .additive) ts e rest
      | .additive => Reads (.chain .multiplicative) ts e rest
      | .multiplicative => Reads .factor ts e rest) : Reads (.operand t) ts e rest := by
  intro s view
  simp only [plain_operand]
  cases t <;> exact h s view

theorem reads_factor (positions : List Expr) (first : Reads .primary ts e mid)
    (others : Reads .subscripts mid positions rest) :
    Reads .factor ts (positions.foldl Expr.index e) rest := by
  intro s view
  obtain ⟨between, there, read⟩ := first s view
  obtain ⟨after, left, read'⟩ := others e between there
  exact ⟨after, left, by simp only [plain_factor, read, Except.bind, read']⟩

theorem reads_noSubscript (last : Ends (· = .symbol .lbracket) rest) :
    Reads .subscripts rest [] rest := by
  intro container s view
  exact ⟨s, view, plain_subscripts_stop container s (view.not_starts _ last (by simp))⟩

theorem reads_subscript (positions : List Expr)
    (inner : Reads (.chain .logical) ts e (.symbol .rbracket :: mid))
    (others : Reads .subscripts mid positions rest) :
    Reads .subscripts (.symbol .lbracket :: ts) (e :: positions) rest := by
  intro container s view
  obtain ⟨next, moved, there⟩ := view.advance
  obtain ⟨between, there, read⟩ := inner next there
  obtain ⟨close, skipped, there⟩ := there.skip
  obtain ⟨after, left, read'⟩ := others (.index container e) close there
  refine ⟨after, left, ?_⟩
  simp only [plain_subscripts_step container s view.kind_cons, moved, Except.bind, read, skipped,
    read', List.foldl_cons]

theorem reads_primary (k : TokenKind)
    (h : Gives (fun s => primaryAt s k) (k :: ts) e rest) : Reads .primary (k :: ts) e rest := by
  intro s view
  obtain ⟨after, left, read⟩ := h s view
  refine ⟨after, left, ?_⟩
  dsimp only
  rw [plain_primary, view.kind_cons]
  exact read

theorem reads_unary (k : TokenKind) (op : UnaryOperator) (sign : (k, op) ∈ UnaryOperator.signs)
    (operand : Reads .factor ts e rest) : Reads .primary (k :: ts) (Expr.unary op e) rest := by
  refine reads_primary k fun s view => ?_
  rw [← UnaryOperator.ofToken?_eq_some_iff] at sign
  obtain ⟨next, moved, there⟩ := view.advance
  obtain ⟨after, left, read⟩ := operand next there
  exact ⟨after, left, by simp only [primaryAt, sign, moved, Except.bind, read, Except.map]⟩

theorem reads_atom (k : TokenKind)
    (atom : ∀ s, primaryAt s k = s.advance.map fun after => (e, after)) :
    Reads .primary (k :: rest) e rest := by
  refine reads_primary k fun s view => ?_
  obtain ⟨after, moved, left⟩ := view.advance
  exact ⟨after, left, by simp only [atom, moved, Except.map]⟩

theorem reads_dict (all : List (Expr × Expr)) (h : Reads .entries ts all (.symbol .rbrace :: rest)) :
    Reads .primary (.symbol .lbrace :: ts) (Expr.dict all) rest := by
  refine reads_primary _ fun s view => ?_
  obtain ⟨next, moved, there⟩ := view.advance
  obtain ⟨between, there, read⟩ := h rfl next there
  obtain ⟨after, skipped, left⟩ := there.skip
  refine ⟨after, left, ?_⟩
  simp only [primaryAt, UnaryOperator.ofToken?, moved, Except.bind, read, skipped, Except.map]

theorem reads_parenthesized (h : Reads (.chain .logical) ts e (.symbol .rparen :: rest)) :
    Reads .primary (.symbol .lparen :: ts) e rest := by
  refine reads_primary _ fun s view => ?_
  obtain ⟨next, moved, there⟩ := view.advance
  obtain ⟨between, there, read⟩ := h next there
  obtain ⟨after, skipped, left⟩ := there.skip
  refine ⟨after, left, ?_⟩
  simp only [primaryAt, UnaryOperator.ofToken?, moved, Except.bind, read, skipped, Except.map]

theorem reads_name (name : String) (h : Gives (fun s => plain (named name s)) ts e rest) :
    Reads .primary (.identifier name :: ts) e rest := by
  refine reads_primary _ fun s view => ?_
  obtain ⟨next, moved, there⟩ := view.advance
  obtain ⟨after, left, read⟩ := h next there
  exact ⟨after, left, by simp only [primaryAt, UnaryOperator.ofToken?, moved, Except.bind, read]⟩

theorem reads_var (name : String)
    (last : Ends (fun k => k = .symbol .assign ∨ k = .symbol .lparen) rest) :
    Reads .primary (.identifier name :: rest) (Expr.var name) rest := by
  refine reads_name name fun s view => ⟨s, view, ?_⟩
  have other := view.not_starts _ last (by simp)
  exact plain_named_var name s (fun here => other (.inl here)) fun here => other (.inr here)

theorem reads_namedAssign (name : String) (h : Reads (.chain .logical) ts e rest) :
    Reads .primary (.identifier name :: .symbol .assign :: ts) (Expr.assign name e) rest := by
  refine reads_name name fun s view => ?_
  obtain ⟨next, moved, there⟩ := view.advance
  obtain ⟨after, left, read⟩ := h next there
  refine ⟨after, left, ?_⟩
  simp only [plain_named_assign name s view.kind_cons, moved, Except.bind, read, Except.map]

theorem reads_call (name : String) (args : List Expr)
    (h : Reads .arguments ts args (.symbol .rparen :: rest)) :
    Reads .primary (.identifier name :: .symbol .lparen :: ts) (Expr.call name args) rest := by
  refine reads_name name fun s view => ?_
  obtain ⟨next, moved, there⟩ := view.advance
  obtain ⟨after, left, read⟩ := h rest rfl next there
  refine ⟨after, left, ?_⟩
  simp only [plain_named_call name s view.kind_cons, moved, Except.bind, read, Except.map]

theorem reads_noEntry : Reads .entries rest [] rest := by
  -- the closing brace behind the entries is what ends them
  intro close s view
  cases rest with
  | nil => cases close
  | cons k rest =>
    cases close
    exact ⟨s, view, plain_entries_stop s view.kind_cons⟩

theorem ne_of_opens {s : Input} {k : TokenKind} (view : s.Spells ts) (opens : Opens .assignment ts)
    (other : ¬ startsExpression k) : s.kind ≠ k := by
  obtain ⟨first, behind, rfl, starts⟩ := opens
  rw [view.kind_cons]
  rintro rfl
  exact other starts

theorem reads_lastEntry (key value : Expr) (opens : Opens (.chain .additive) ts)
    (left : Reads (.chain .additive) ts key (.symbol .colon :: mid))
    (right : Reads (.chain .additive) mid value rest) (last : Ends (· = .symbol .comma) rest) :
    Reads .entries ts [(key, value)] rest := by
  intro close s view
  have more : s.kind ≠ .symbol .rbrace := ne_of_opens view opens (by simp [startsExpression])
  obtain ⟨between, there, read⟩ := left s view
  obtain ⟨colon, skipped, there⟩ := there.skip
  obtain ⟨after, there, read'⟩ := right colon there
  refine ⟨after, there, ?_⟩
  simp only [plain_entries_step s more, read, Except.bind, skipped, read',
    if_neg (there.not_starts _ last (by simp))]

theorem reads_entry (key value : Expr) (all : List (Expr × Expr)) (opens : Opens (.chain .additive) ts)
    (left : Reads (.chain .additive) ts key (.symbol .colon :: mid))
    (right : Reads (.chain .additive) mid value (.symbol .comma :: mid'))
    (others : Reads .entries mid' all rest) : Reads .entries ts ((key, value) :: all) rest := by
  intro close s view
  have more : s.kind ≠ .symbol .rbrace := ne_of_opens view opens (by simp [startsExpression])
  obtain ⟨between, there, read⟩ := left s view
  obtain ⟨colon, skipped, there⟩ := there.skip
  obtain ⟨comma, here, read'⟩ := right colon there
  obtain ⟨next, moved, there⟩ := here.advance
  obtain ⟨after, there, read''⟩ := others close next there
  refine ⟨after, there, ?_⟩
  simp only [plain_entries_step s more, read, Except.bind, skipped, read', if_pos here.kind_cons,
    moved, read'', Except.map]

theorem reads_noArgument : Reads .arguments rest [] rest := by
  rintro behind rfl s view
  obtain ⟨after, moved, left⟩ := view.advance
  refine ⟨after, left, ?_⟩
  simp only [plain_arguments_none s view.kind_cons, moved, Except.map]

theorem reads_arguments (args : List Expr) (opens : Opens (.chain .logical) ts)
    (first : Reads (.chain .logical) ts e mid) (others : Reads .moreArguments mid args rest) :
    Reads .arguments ts (e :: args) rest := by
  rintro behind rfl s view
  have more : s.kind ≠ .symbol .rparen := ne_of_opens view opens (by simp [startsExpression])
  obtain ⟨between, there, read⟩ := first s view
  obtain ⟨close, there, read'⟩ := others between there
  obtain ⟨after, skipped, left⟩ := there.skip
  refine ⟨after, left, ?_⟩
  simp only [plain_arguments_some s more, read, Except.bind, read', skipped, Except.map]

theorem reads_noMore (last : Ends (· = .symbol .comma) rest) : Reads .moreArguments rest [] rest := by
  intro s view
  exact ⟨s, view, plain_moreArguments_stop s (view.not_starts _ last (by simp))⟩

theorem reads_more (args : List Expr) (first : Reads (.chain .logical) ts e mid)
    (others : Reads .moreArguments mid args rest) :
    Reads .moreArguments (.symbol .comma :: ts) (e :: args) rest := by
  intro s view
  obtain ⟨next, moved, there⟩ := view.advance
  obtain ⟨between, there, read⟩ := first next there
  obtain ⟨after, left, read'⟩ := others between there
  refine ⟨after, left, ?_⟩
  simp only [plain_moreArguments_step s view.kind_cons, moved, Except.bind, read, read', Except.map]

theorem reads_plain (h : Reads (.chain .logical) ts e rest) (last : Ends (· = .symbol .assign) rest) :
    Reads .assignment ts e rest := by
  intro s view
  obtain ⟨after, left, read⟩ := h s view
  refine ⟨after, left, ?_⟩
  simp only [plain_assignment s, read, Except.bind, if_neg (left.not_starts _ last (by simp))]

theorem reads_assign (target : String)
    (left : Reads (.chain .logical) ts (Expr.var target) (.symbol .assign :: mid))
    (right : Reads .assignment mid e rest) : Reads .assignment ts (Expr.assign target e) rest := by
  intro s view
  obtain ⟨sign, here, read⟩ := left s view
  obtain ⟨next, moved, there⟩ := here.advance
  obtain ⟨after, left, read'⟩ := right next there
  refine ⟨after, left, ?_⟩
  simp only [plain_assignment s, read, Except.bind, if_pos here.kind_cons, moved, read', Except.map]

theorem reads_noStatement : Reads .statements rest [] rest := by
  intro inBlock stop s view
  refine ⟨s, view, plain_statements_stop inBlock s ?_⟩
  cases rest with
  | nil => rwa [view.kind_nil]
  | cons k rest => rwa [view.kind_cons]

theorem reads_statements (stmt : Stmt) (all : List Stmt) (opens : Opens .statement ts)
    (first : Reads .statement ts stmt mid) (others : Reads .statements mid all rest) :
    Reads .statements ts (stmt :: all) rest := by
  intro inBlock stop s view
  have more : endsStatements inBlock s.kind = false := by
    -- a token that starts a statement ends no list of them
    obtain ⟨k, behind, rfl, starts⟩ := opens
    rw [view.kind_cons]
    exact Bool.eq_false_iff.mpr fun ends => not_startsStatement ends starts
  obtain ⟨between, there, read⟩ := first s view
  obtain ⟨after, left, read'⟩ := others inBlock stop between there
  refine ⟨after, left, ?_⟩
  simp only [plain_statements_step inBlock s more, read, Except.bind, read', Except.map]

theorem reads_conditional (condition : Expr) (block : List Stmt) (branches : List (Expr × List Stmt))
    (last : Option (List Stmt)) (test : Reads (.chain .logical) ts condition (.symbol .colon :: mid))
    (inner : Reads .block mid block mid') (others : Reads .elifs mid' branches mid'')
    (final : Reads .otherwise mid'' last rest) :
    Reads .statement (.keyword .ifWord :: ts) (Stmt.conditional condition block branches last)
      rest := by
  intro s view
  obtain ⟨next, moved, there⟩ := view.advance
  obtain ⟨colon, there, tested⟩ := test next there
  obtain ⟨close, there, read⟩ := inner colon there
  obtain ⟨close', there, read'⟩ := others close there
  obtain ⟨after, left, read''⟩ := final close' there
  refine ⟨after, left, ?_⟩
  simp only [plain_statement_conditional s view.kind_cons, moved, Except.bind, tested, read, read',
    read'', Except.map]

theorem reads_expression (opens : Opens .assignment ts) (h : Reads .assignment ts e rest) :
    Reads .statement ts (Stmt.expr e) rest := by
  intro s view
  have other : s.kind ≠ .keyword .ifWord := ne_of_opens view opens (by simp [startsExpression])
  obtain ⟨after, left, read⟩ := h s view
  refine ⟨after, left, ?_⟩
  simp only [plain_statement_expression s other, read, Except.map]

theorem reads_block (all : List Stmt) (h : Reads .statements ts all (.symbol .rbrace :: rest)) :
    Reads .block (.symbol .lbrace :: ts) all rest := by
  intro s view
  obtain ⟨colon, skipped, there⟩ := view.skip
  obtain ⟨brace, skipped', there⟩ := there.skip
  obtain ⟨close, there, read⟩ := h true (by simp [endsStatements]) brace there
  obtain ⟨after, skipped'', left⟩ := there.skip
  refine ⟨after, left, ?_⟩
  simp only [plain_body, skipped, Except.bind, skipped', read, skipped'', Except.map]

theorem reads_noElif (last : Ends (· = .keyword .elifWord) rest) : Reads .elifs rest [] rest := by
  intro s view
  exact ⟨s, view, plain_elifs_stop s (view.not_starts _ last (by simp))⟩

theorem reads_elif (condition : Expr) (block : List Stmt) (branches : List (Expr × List Stmt))
    (test : Reads (.chain .logical) ts condition (.symbol .colon :: mid))
    (inner : Reads .block mid block mid') (others : Reads .elifs mid' branches rest) :
    Reads .elifs (.keyword .elifWord :: ts) ((condition, block) :: branches) rest := by
  intro s view
  obtain ⟨next, moved, there⟩ := view.advance
  obtain ⟨colon, there, tested⟩ := test next there
  obtain ⟨close, there, read⟩ := inner colon there
  obtain ⟨after, left, read'⟩ := others close there
  refine ⟨after, left, ?_⟩
  simp only [plain_elifs_step s view.kind_cons, moved, Except.bind, tested, read, read', Except.map]

theorem reads_noElse (last : Ends (· = .keyword .elseWord) rest) :
    Reads .otherwise rest none rest := by
  intro s view
  exact ⟨s, view, plain_otherwise_none s (view.not_starts _ last (by simp))⟩

theorem reads_otherwise (block : List Stmt) (h : Reads .block ts block rest) :
    Reads .otherwise (.keyword .elseWord :: .symbol .colon :: ts) (some block) rest := by
  intro s view
  obtain ⟨next, moved, there⟩ := view.advance
  obtain ⟨after, left, read⟩ := h next there
  refine ⟨after, left, ?_⟩
  simp only [plain_otherwise_some s view.kind_cons, moved, Except.bind, read, Except.map]

end

theorem reads_of_derives {part : Part} {ts rest : List TokenKind} {v : part.Meaning}
    (h : Derives part ts v rest) : Reads part ts v rest := by
  induction h with
  | noStatement => exact reads_noStatement
  | statements first _ ih ih' => exact reads_statements _ _ first.opens ih ih'
  | conditional _ _ _ _ test inner others final => exact reads_conditional _ _ _ _ test inner others final
  | expression h ih => exact reads_expression h.opens ih
  | block _ ih => exact reads_block _ ih
  | noElif last => exact reads_noElif last
  | elif _ _ _ test inner others => exact reads_elif _ _ _ test inner others
  | noElse last => exact reads_noElse last
  | otherwise _ ih => exact reads_otherwise _ ih
  | plain _ last ih => exact reads_plain ih last
  | assign _ _ left right => exact reads_assign _ left right
  | chain _ _ first others => exact reads_chain _ first others
  | noOperation last => exact reads_noOperation last
  | operation sign _ _ operand others => exact reads_operation _ _ _ sign operand others
  | logicalOperand _ ih => exact reads_operand ih
  | comparisonOperand _ ih => exact reads_operand ih
  | additiveOperand _ ih => exact reads_operand ih
  | multiplicativeOperand _ ih => exact reads_operand ih
  | factor _ _ first others => exact reads_factor _ first others
  | noSubscript last => exact reads_noSubscript last
  | subscript _ _ inner others => exact reads_subscript _ inner others
  | unary sign _ operand => exact reads_unary _ _ sign operand
  | int => exact reads_atom _ fun _ => rfl
  | trueWord => exact reads_atom _ fun _ => rfl
  | falseWord => exact reads_atom _ fun _ => rfl
  | str => exact reads_atom _ fun _ => rfl
  | dict _ ih => exact reads_dict _ ih
  | parenthesized _ ih => exact reads_parenthesized ih
  | var last => exact reads_var _ last
  | namedAssign _ ih => exact reads_namedAssign _ ih
  | call _ ih => exact reads_call _ _ ih
  | noEntry => exact reads_noEntry
  | lastEntry one _ last left right => exact reads_lastEntry _ _ one.opens left right last
  | entry one _ _ left right others => exact reads_entry _ _ _ one.opens left right others
  | noArgument => exact reads_noArgument
  | arguments one _ first others => exact reads_arguments _ one.opens first others
  | noMore last => exact reads_noMore last
  | more _ _ first others => exact reads_more _ first others

end Parser

namespace Program

open Grammar

theorem ofTokens_of_derives (ts : List Token) (noEnd : ∀ t ∈ ts, t.kind ≠ .eof) (p : Program)
    (h : DerivesProgram (ts.map (·.kind)) p) : ofTokens ts = .ok p := by
  obtain ⟨s, start, view⟩ := Input.Spells.ofTokens ts noEnd
  obtain ⟨after, -, read⟩ := Parser.reads_of_derives h false rfl s view
  have result : ofItems (ts.map .ok) = .ok p := by
    rw [ofItems_eq, start]
    simp only [Except.bind, read, Except.map]
  exact result

theorem derives_of_ofTokens (ts : List Token) (noEnd : ∀ t ∈ ts, t.kind ≠ .eof) (p : Program)
    (h : ofTokens ts = .ok p) : DerivesProgram (ts.map (·.kind)) p := by
  obtain ⟨s, start, view⟩ := Input.Spells.ofTokens ts noEnd
  have result : ofItems (ts.map .ok) = .ok p := h
  rw [ofItems_eq, start] at result
  simp only [Except.bind, Parser.map_eq_ok_iff] at result
  obtain ⟨⟨all, after⟩, read, rfl⟩ := result
  obtain ⟨stops, rest, left, one⟩ := Parser.finds_of_statements false s after _ all view read
  -- outside a block, only the end of the tokens ends the statements
  cases rest with
  | nil => exact one
  | cons k rest =>
    have last : after.kind = .eof := by simpa [endsStatements] using stops
    exact absurd (left.kind_cons.symm.trans last) left.ne_eof

theorem ofTokens_eq_ok_iff_derives (ts : List Token) (noEnd : ∀ t ∈ ts, t.kind ≠ .eof)
    (p : Program) : ofTokens ts = .ok p ↔ DerivesProgram (ts.map (·.kind)) p :=
  ⟨derives_of_ofTokens ts noEnd p, ofTokens_of_derives ts noEnd p⟩

def juxtaposed : List Token :=
  -- (x) = -a[0] y
  [.symbol .lparen, .identifier "x", .symbol .rparen, .symbol .assign, .symbol .minus,
    .identifier "a", .symbol .lbracket, .integer 0, .symbol .rbracket, .identifier "y"].map
      fun k => ⟨k, ⟨0, 0, 1, 1⟩⟩

theorem ofTokens_eq_ok_iff_derives_juxtaposed :
    (∀ t ∈ juxtaposed, t.kind ≠ .eof) ∧
      DerivesProgram (juxtaposed.map (·.kind))
        [.expr (.assign "x" (.unary .minus (.index (.var "a") (.int 0)))), .expr (.var "y")] := by
  have noEnd : ∀ t ∈ juxtaposed, t.kind ≠ .eof := by decide
  refine ⟨noEnd, (ofTokens_eq_ok_iff_derives juxtaposed noEnd _).mp ?_⟩
  cbv

end Program

end TableScript
