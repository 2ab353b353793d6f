import TableScript.Syntax.Parser

set_option autoImplicit false

namespace TableScript

namespace Input

def skip (s : Input) (symbol : Symbol) : Except SyntaxError Input :=
  if s.kind = .symbol symbol then s.advance else s.unexpected (.token (.symbol symbol))

theorem skip_size_lt (s after : Input) (symbol : Symbol) (h : s.skip symbol = .ok after) :
    after.size < s.size := by
  unfold skip at h
  split at h
  next here => exact advance_size_lt s after h (by simp [here])
  next => cases h

end Input

namespace Parser

variable {α β : Type} {m n : Nat}

theorem bind_eq_ok_iff (x : Except SyntaxError α) (f : α → Except SyntaxError β) (v : β) :
    x.bind f = .ok v ↔ ∃ a, x = .ok a ∧ f a = .ok v := by
  cases x <;> simp [Except.bind]

theorem map_eq_ok_iff (x : Except SyntaxError α) (f : α → β) (v : β) :
    x.map f = .ok v ↔ ∃ a, x = .ok a ∧ f a = v := by
  cases x <;> simp [Except.map]

abbrev Plain (α : Type) := Except SyntaxError (α × Input)

def plain (r : Result α n) : Plain α := r.map fun x => (x.value, x.rest)

theorem plain_shorter (r : Result α n) (v : α) (rest : Input) (h : plain r = .ok (v, rest)) :
    rest.size < n := by
  cases r with
  | error e => cases h
  | ok x =>
    cases h
    exact x.shorter

theorem plain_bind (r : Result α m) (f : Read α m → Result β n) (g : α × Input → Plain β)
    (same : ∀ x, plain (f x) = g (x.value, x.rest)) : plain (r >>= f) = (plain r).bind g := by
  cases r with
  | error e => rfl
  | ok x => exact same x

theorem plain_return (r : Result α m) (f : Read α m → Read β n) (g : α → β)
    (value : ∀ x, (f x).value = g x.value) (rest : ∀ x, (f x).rest = x.rest) :
    plain (r >>= fun x => pure (f x)) = (plain r).map fun x => (g x.1, x.2) := by
  cases r with
  | error e => rfl
  | ok x => simp [plain, Except.map, bind, Except.bind, pure, Except.pure, value, rest]

theorem plain_widen (r : Result α m) (h : m ≤ n) :
    plain (r >>= fun x => pure (x.widen h)) = plain r := by
  cases r <;> rfl

theorem plain_next_bind (s : Input) (more : s.kind ≠ .eof) (f : Read Unit s.size → Result β n)
    (g : Input → Plain β) (same : ∀ x, plain (f x) = g x.rest) :
    plain (s.next more >>= f) = s.advance.bind g := by
  unfold Input.next
  split
  next after moved =>
    have behind : s.advance.bind g = g after := by rw [moved]; rfl
    exact (same _).trans behind.symm
  next e failed =>
    have stuck : s.advance.bind g = .error e := by rw [failed]; rfl
    exact stuck.symm

theorem plain_skip_bind (s : Input) (symbol : Symbol) (f : Read Unit s.size → Result β n)
    (g : Input → Plain β) (same : ∀ x, plain (f x) = g x.rest) :
    plain (s.expectSymbol symbol >>= f) = (s.skip symbol).bind g := by
  unfold Input.expectSymbol Input.skip
  split
  next here => exact plain_next_bind s _ f g same
  next other => rfl

theorem plain_next_return (s : Input) (more : s.kind ≠ .eof) (f : Read Unit s.size → Read β n) (v : β)
    (value : ∀ x, (f x).value = v) (rest : ∀ x, (f x).rest = x.rest) :
    plain (s.next more >>= fun x => pure (f x)) = s.advance.map fun after => (v, after) := by
  rw [plain_next_bind s more _ (fun after => .ok (v, after))]
  next => cases s.advance <;> rfl
  next =>
    intro x
    simp [plain, Except.map, pure, Except.pure, value, rest]

theorem plain_skip_return (s : Input) (symbol : Symbol) (f : Read Unit s.size → Read β n) (v : β)
    (value : ∀ x, (f x).value = v) (rest : ∀ x, (f x).rest = x.rest) :
    plain (s.expectSymbol symbol >>= fun x => pure (f x)) =
      (s.skip symbol).map fun after => (v, after) := by
  rw [plain_skip_bind s symbol _ (fun after => .ok (v, after))]
  next => cases s.skip symbol <;> rfl
  next =>
    intro x
    simp [plain, Except.map, pure, Except.pure, value, rest]

theorem plain_chain (t : Tier) (s : Input) :
    plain (chain t s) = (plain (operand t s)).bind fun first => plain (chainRest t first.1 first.2) := by
  rw [chain]
  exact plain_bind _ _ _ fun first => plain_widen _ _

theorem plain_chainRest_stop (t : Tier) (left : Expr) (s : Input) (h : t.operator? s.kind = none) :
    plain (chainRest t left s) = .ok (left, s) := by
  rw [chainRest]
  split
  next => rfl
  next other => simp [h] at other

theorem plain_chainRest_step (t : Tier) (left : Expr) (s : Input) (op : BinaryOperator)
    (h : t.operator? s.kind = some op) :
    plain (chainRest t left s) = s.advance.bind fun after =>
      (plain (operand t after)).bind fun right =>
        plain (chainRest t (.binary op left right.1) right.2) := by
  rw [chainRest]
  split
  next other => simp [h] at other
  next found other =>
    obtain rfl : found = op := by simpa [h] using other.symm
    refine plain_next_bind s _ _ _ fun sign => ?_
    refine plain_bind _ _ _ fun right => ?_
    exact plain_widen _ _

theorem plain_operand (t : Tier) (s : Input) :
    plain (operand t s) =
      match t with
      | .logical => plain (chain .comparison s)
      | .comparison => plain (chain .additive s)
      | .additive => plain (chain .multiplicative s)
      | .multiplicative => plain (factor s) := by
  cases t <;> rw [operand]

theorem plain_factor (s : Input) :
    plain (factor s) = (plain (primary s)).bind fun first => plain (subscripts first.1 first.2) := by
  rw [factor]
  exact plain_bind _ _ _ fun first => plain_widen _ _

theorem plain_subscripts_stop (container : Expr) (s : Input) (h : s.kind ≠ .symbol .lbracket) :
    plain (subscripts container s) = .ok (container, s) := by
  rw [subscripts, dif_neg h]
  rfl

theorem plain_subscripts_step (container : Expr) (s : Input) (h : s.kind = .symbol .lbracket) :
    plain (subscripts container s) = s.advance.bind fun after =>
      (plain (chain .logical after)).bind fun position =>
        (position.2.skip .rbracket).bind fun close =>
          plain (subscripts (.index container position.1) close) := by
  rw [subscripts, dif_pos h]
  refine plain_next_bind s _ _ _ fun bracket => ?_
  refine plain_bind _ _ _ fun position => ?_
  refine plain_skip_bind _ _ _ _ fun close => ?_
  exact plain_widen _ _

def primaryAt (s : Input) (kind : TokenKind) : Plain Expr :=
  match UnaryOperator.ofToken? kind with
  | some op => s.advance.bind fun after =>
    (plain (factor after)).map fun operand => (.unary op operand.1, operand.2)
  | none =>
    match kind with
    | .integer n => s.advance.map fun after => (.int n, after)
    | .keyword .trueWord => s.advance.map fun after => (.bool true, after)
    | .keyword .falseWord => s.advance.map fun after => (.bool false, after)
    | .string text => s.advance.map fun after => (.str text, after)
    | .symbol .lbrace => s.advance.bind fun after =>
      (plain (entries after)).bind fun all =>
        (all.2.skip .rbrace).map fun close => (.dict all.1, close)
    | .symbol .lparen => s.advance.bind fun after =>
      (plain (chain .logical after)).bind fun inner =>
        (inner.2.skip .rparen).map fun close => (inner.1, close)
    | .identifier name => s.advance.bind fun after => plain (named name after)
    | _ => s.advance.bind fun _ => s.unexpected .expression

theorem plain_primary (s : Input) : plain (primary s) = primaryAt s s.kind := by
  rw [primary]
  split
  next op sign =>
    have shape : primaryAt s s.kind = s.advance.bind fun after =>
        (plain (factor after)).map fun operand => (.unary op operand.1, operand.2) := by
      simp only [primaryAt, sign]
    rw [shape]
    refine plain_next_bind s _ _ _ fun sign => ?_
    exact plain_return _ _ _ (fun _ => rfl) (fun _ => rfl)
  next none =>
    split
    next n here =>
      rw [congrArg (primaryAt s) here]
      exact plain_next_return s _ _ _ (fun _ => rfl) (fun _ => rfl)
    next here =>
      rw [congrArg (primaryAt s) here]
      exact plain_next_return s _ _ _ (fun _ => rfl) (fun _ => rfl)
    next here =>
      rw [congrArg (primaryAt s) here]
      exact plain_next_return s _ _ _ (fun _ => rfl) (fun _ => rfl)
    next text here =>
      rw [congrArg (primaryAt s) here]
      exact plain_next_return s _ _ _ (fun _ => rfl) (fun _ => rfl)
    next here =>
      rw [congrArg (primaryAt s) here]
      refine plain_next_bind s _ _ _ fun brace => ?_
      refine plain_bind _ _ _ fun all => ?_
      exact plain_skip_return _ _ _ _ (fun _ => rfl) (fun _ => rfl)
    next here =>
      rw [congrArg (primaryAt s) here]
      refine plain_next_bind s _ _ _ fun paren => ?_
      refine plain_bind _ _ _ fun inner => ?_
      exact plain_skip_return _ _ _ _ (fun _ => rfl) (fun _ => rfl)
    next name here =>
      rw [congrArg (primaryAt s) here]
      refine plain_next_bind s _ _ _ fun token => ?_
      exact plain_widen _ _
    next other =>
      -- the token behind is read before this one is refused, so its fault comes first
      have shape : primaryAt s s.kind = s.advance.bind fun _ => s.unexpected .expression := by
        unfold primaryAt
        rw [none]
        split <;> simp_all
      rw [shape]
      cases s.advance <;> rfl

theorem plain_named_assign (name : String) (s : Input) (h : s.kind = .symbol .assign) :
    plain (named name s) = s.advance.bind fun after =>
      (plain (chain .logical after)).map fun value => (.assign name value.1, value.2) := by
  rw [named, dif_pos h]
  refine plain_next_bind s _ _ _ fun sign => ?_
  exact plain_return _ _ _ (fun _ => rfl) (fun _ => rfl)

theorem plain_named_call (name : String) (s : Input) (h : s.kind = .symbol .lparen) :
    plain (named name s) = s.advance.bind fun after =>
      (plain (arguments after)).map fun args => (.call name args.1, args.2) := by
  rw [named, dif_neg (by simp [h]), dif_pos h]
  refine plain_next_bind s _ _ _ fun paren => ?_
  exact plain_return _ _ _ (fun _ => rfl) (fun _ => rfl)

theorem plain_named_var (name : String) (s : Input) (assign : s.kind ≠ .symbol .assign)
    (paren : s.kind ≠ .symbol .lparen) : plain (named name s) = .ok (.var name, s) := by
  rw [named, dif_neg assign, dif_neg paren]
  rfl

theorem plain_arguments_none (s : Input) (h : s.kind = .symbol .rparen) :
    plain (arguments s) = s.advance.map fun after => ([], after) := by
  rw [arguments, if_pos h]
  have skipped : s.skip .rparen = s.advance := if_pos h
  rw [← skipped]
  exact plain_skip_return _ _ _ _ (fun _ => rfl) (fun _ => rfl)

theorem plain_arguments_some (s : Input) (h : s.kind ≠ .symbol .rparen) :
    plain (arguments s) = (plain (chain .logical s)).bind fun first =>
      (plain (moreArguments first.2)).bind fun more =>
        (more.2.skip .rparen).map fun close => (first.1 :: more.1, close) := by
  rw [arguments, if_neg h]
  refine plain_bind _ _ _ fun first => ?_
  refine plain_bind _ _ _ fun more => ?_
  exact plain_skip_return _ _ _ _ (fun _ => rfl) (fun _ => rfl)

theorem plain_moreArguments_stop (s : Input) (h : s.kind ≠ .symbol .comma) :
    plain (moreArguments s) = .ok ([], s) := by
  rw [moreArguments, dif_neg h]
  rfl

theorem plain_moreArguments_step (s : Input) (h : s.kind = .symbol .comma) :
    plain (moreArguments s) = s.advance.bind fun after =>
      (plain (chain .logical after)).bind fun arg =>
        (plain (moreArguments arg.2)).map fun more => (arg.1 :: more.1, more.2) := by
  rw [moreArguments, dif_pos h]
  refine plain_next_bind s _ _ _ fun comma => ?_
  refine plain_bind _ _ _ fun arg => ?_
  exact plain_return _ _ _ (fun _ => rfl) (fun _ => rfl)

theorem plain_entries_stop (s : Input) (h : s.kind = .symbol .rbrace) :
    plain (entries s) = .ok ([], s) := by
  rw [entries, if_pos h]
  rfl

theorem plain_entries_step (s : Input) (h : s.kind ≠ .symbol .rbrace) :
    plain (entries s) = (plain (chain .additive s)).bind fun key =>
      (key.2.skip .colon).bind fun colon =>
        (plain (chain .additive colon)).bind fun value =>
          if value.2.kind = .symbol .comma then
            value.2.advance.bind fun comma =>
              (plain (entries comma)).map fun more => ((key.1, value.1) :: more.1, more.2)
          else .ok ([(key.1, value.1)], value.2) := by
  rw [entries, if_neg h]
  refine plain_bind _ _ _ fun key => ?_
  refine plain_skip_bind _ _ _ _ fun colon => ?_
  refine plain_bind _ _ _ fun value => ?_
  dsimp only
  split
  next here =>
    refine plain_next_bind _ _ _ _ fun comma => ?_
    exact plain_return _ _ _ (fun _ => rfl) (fun _ => rfl)
  next => rfl

theorem plain_assignment (s : Input) :
    plain (assignment s) = (plain (chain .logical s)).bind fun left =>
      if left.2.kind = .symbol .assign then
        match left.1 with
        | .var target => left.2.advance.bind fun after =>
          (plain (assignment after)).map fun value => (.assign target value.1, value.2)
        | _ =>
          .error (.invalidAssignmentTarget left.2.current.span.line left.2.current.span.column)
      else .ok left := by
  rw [assignment]
  refine plain_bind _ _ _ fun left => ?_
  dsimp only
  split
  next here =>
    cases left.value with
    | var target =>
      refine plain_next_bind _ _ _ _ fun sign => ?_
      exact plain_return _ _ _ (fun _ => rfl) (fun _ => rfl)
    | _ => rfl
  next => rfl

theorem plain_statement_conditional (s : Input) (h : s.kind = .keyword .ifWord) :
    plain (statement s) = s.advance.bind fun after =>
      (plain (chain .logical after)).bind fun condition =>
        (plain (body condition.2)).bind fun block =>
          (plain (elifs block.2)).bind fun branches =>
            (plain (otherwise branches.2)).map fun last =>
              (.conditional condition.1 block.1 branches.1 last.1, last.2) := by
  rw [statement, dif_pos h]
  refine plain_next_bind s _ _ _ fun word => ?_
  refine plain_bind _ _ _ fun condition => ?_
  refine plain_bind _ _ _ fun block => ?_
  refine plain_bind _ _ _ fun branches => ?_
  exact plain_return _ _ _ (fun _ => rfl) (fun _ => rfl)

theorem plain_statement_expression (s : Input) (h : s.kind ≠ .keyword .ifWord) :
    plain (statement s) = (plain (assignment s)).map fun e => (.expr e.1, e.2) := by
  rw [statement, dif_neg h]
  exact plain_return _ _ _ (fun _ => rfl) (fun _ => rfl)

theorem plain_body (s : Input) :
    plain (body s) = (s.skip .colon).bind fun colon =>
      (colon.skip .lbrace).bind fun brace =>
        (plain (statements true brace)).bind fun inner =>
          (inner.2.skip .rbrace).map fun close => (inner.1, close) := by
  rw [body]
  refine plain_skip_bind _ _ _ _ fun colon => ?_
  refine plain_skip_bind _ _ _ _ fun brace => ?_
  refine plain_bind _ _ _ fun inner => ?_
  exact plain_skip_return _ _ _ _ (fun _ => rfl) (fun _ => rfl)

theorem plain_elifs_stop (s : Input) (h : s.kind ≠ .keyword .elifWord) :
    plain (elifs s) = .ok ([], s) := by
  rw [elifs, dif_neg h]
  rfl

theorem plain_elifs_step (s : Input) (h : s.kind = .keyword .elifWord) :
    plain (elifs s) = s.advance.bind fun after =>
      (plain (chain .logical after)).bind fun condition =>
        (plain (body condition.2)).bind fun block =>
          (plain (elifs block.2)).map fun more => ((condition.1, block.1) :: more.1, more.2) := by
  rw [elifs, dif_pos h]
  refine plain_next_bind s _ _ _ fun word => ?_
  refine plain_bind _ _ _ fun condition => ?_
  refine plain_bind _ _ _ fun block => ?_
  exact plain_return _ _ _ (fun _ => rfl) (fun _ => rfl)

theorem plain_otherwise_none (s : Input) (h : s.kind ≠ .keyword .elseWord) :
    plain (otherwise s) = .ok (none, s) := by
  rw [otherwise, dif_neg h]
  rfl

theorem plain_otherwise_some (s : Input) (h : s.kind = .keyword .elseWord) :
    plain (otherwise s) = s.advance.bind fun after =>
      (plain (body after)).map fun block => (some block.1, block.2) := by
  rw [otherwise, dif_pos h]
  refine plain_next_bind s _ _ _ fun word => ?_
  exact plain_return _ _ _ (fun _ => rfl) (fun _ => rfl)

theorem plain_statements_stop (inBlock : Bool) (s : Input) (h : endsStatements inBlock s.kind = true) :
    plain (statements inBlock s) = .ok ([], s) := by
  rw [statements, if_pos h]
  rfl

theorem plain_statements_step (inBlock : Bool) (s : Input)
    (h : endsStatements inBlock s.kind = false) :
    plain (statements inBlock s) = (plain (statement s)).bind fun first =>
      (plain (statements inBlock first.2)).map fun more => (first.1 :: more.1, more.2) := by
  rw [statements, if_neg (by simp [h])]
  refine plain_bind _ _ _ fun first => ?_
  exact plain_return _ _ _ (fun _ => rfl) (fun _ => rfl)

end Parser

theorem Program.ofItems_eq (items : List (Except LexError Token)) :
    ofItems items = (Input.start items).bind fun s =>
      (Parser.plain (Parser.statements false s)).map (·.1) := by
  unfold ofItems
  cases Input.start items with
  | error e => rfl
  | ok s => simp only [bind, Except.bind]; cases Parser.statements false s <;> rfl

end TableScript
