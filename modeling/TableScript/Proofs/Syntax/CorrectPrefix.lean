import TableScript.Proofs.Syntax.Finishing

set_option autoImplicit false

namespace TableScript

namespace Parser

open Input

mutual

theorem settled_chain (t : Tier) (last : Span) (ts : List Token) :
    Settled Closes (fun s => plain (chain t s)) last ts := by
  rw [funext (plain_chain t)]
  apply (settled_operand t last ts).onward (fun _ stop => stop)
    fun left => (rests_chainRest t left).finishes
  intro left last rest fewer
  exact settled_chainRest t left last rest
termination_by ((behind last ts).size, 2 * t.depth + 4)

theorem settled_chainRest (t : Tier) (left : Expr) (last : Span) (ts : List Token) :
    Settled Closes (fun s => plain (chainRest t left s)) last ts := by
  cases sign : t.operator? (firstKind ts) with
  | none =>
    exact (rests_chainRest t left).settled sign
  | some op =>
    have more : firstKind ts ≠ .eof := by
      intro last
      simp [last] at sign
    apply settled_advance more fun s here => plain_chainRest_step t left s op (here ▸ sign)
    intro last rest fewer
    apply (settled_operand t last rest).onward (fun _ stop => stop)
      fun right => (rests_chainRest t (.binary op left right)).finishes
    intro right last later fewest
    exact settled_chainRest t (.binary op left right) last later
termination_by ((behind last ts).size, 0)

theorem settled_operand (t : Tier) (last : Span) (ts : List Token) :
    Settled Closes (fun s => plain (operand t s)) last ts := by
  rw [funext (plain_operand t)]
  cases t with
  | logical => exact settled_chain .comparison last ts
  | comparison => exact settled_chain .additive last ts
  | additive => exact settled_chain .multiplicative last ts
  | multiplicative => exact settled_factor last ts
termination_by ((behind last ts).size, 2 * t.depth + 3)

theorem settled_factor (last : Span) (ts : List Token) :
    Settled Closes (fun s => plain (factor s)) last ts := by
  rw [funext plain_factor]
  apply (settled_primary last ts).onward (fun _ stop => stop) fun e => (rests_subscripts e).finishes
  intro container last rest fewer
  exact settled_subscripts container last rest
termination_by ((behind last ts).size, 2)

theorem settled_subscripts (container : Expr) (last : Span) (ts : List Token) :
    Settled Closes (fun s => plain (subscripts container s)) last ts := by
  by_cases here : firstKind ts = .symbol .lbracket
  next =>
    apply settled_advance (by simp [here])
      fun s same => plain_subscripts_step container s (same.trans here)
    intro last rest fewer
    apply (settled_chain .logical last rest).onward (fun _ stop => stop)
      fun position => finishes_skip .rbracket (by simp [Closes])
        (rests_subscripts (.index container position)).finishes.anyhow
    intro position last later fewest
    apply settled_skip .rbracket (rests_subscripts (.index container position)).finishes.anyhow
    intro last behind least
    exact settled_subscripts (.index container position) last behind
  next =>
    exact (rests_subscripts container).settled here
termination_by ((behind last ts).size, 0)

theorem settled_primary (last : Span) (ts : List Token) :
    Settled Closes (fun s => plain (primary s)) last ts := by
  have shape (s : Input) (same : s.kind = firstKind ts) :
      plain (primary s) = primaryAt s (firstKind ts) := by rw [plain_primary, same]
  rcases primaryAt_cases (firstKind ts) with ⟨g, rest, more, step⟩ | refused
  next =>
    apply settled_advance more fun s same => (shape s same).trans (step s)
    intro last later fewer
    cases rest with
    | atom e => exact settled_return e
    | unary op => exact (settled_factor last later).map (Expr.unary op)
    | dict => exact (settled_entries last later).closed .rbrace rfl Expr.dict
    | paren => exact (settled_chain .logical last later).closed .rparen (by simp [Closes]) id
    | named name => exact settled_named name last later
  next =>
    -- the token behind is read first, but no list of tokens has a fault there
    have finishes : Finishes (fun _ => True) Closes fun s => plain (primary s) :=
      finishes_primary trivial
    apply settled_unexpected .expression _ (finishes.completes last)
    intro other same
    obtain ⟨after, moved⟩ := exists_advance last other
    rw [shape _ (by rw [kind_behind, same]), refused, moved]
    rfl
termination_by ((behind last ts).size, 1)

theorem settled_named (name : String) (last : Span) (ts : List Token) :
    Settled Closes (fun s => plain (named name s)) last ts := by
  by_cases assign : firstKind ts = .symbol .assign
  next =>
    apply settled_advance (by simp [assign])
      fun s same => plain_named_assign name s (same.trans assign)
    intro last rest fewer
    exact (settled_chain .logical last rest).map (Expr.assign name)
  next =>
    by_cases paren : firstKind ts = .symbol .lparen
    next =>
      apply settled_advance (by simp [paren]) fun s same => plain_named_call name s (same.trans paren)
      intro last rest fewer
      exact (settled_arguments last rest).map (Expr.call name)
    next =>
      exact (rests_named name).settled ⟨assign, paren⟩
termination_by ((behind last ts).size, 0)

theorem settled_arguments (last : Span) (ts : List Token) :
    Settled Closes (fun s => plain (arguments s)) last ts := by
  by_cases close : firstKind ts = .symbol .rparen
  next =>
    apply settled_advance (by simp [close]) fun s same => plain_arguments_none s (same.trans close)
    intro last rest fewer
    exact settled_return []
  next =>
    -- the first token is taken, so nothing that may follow can put a closing parenthesis in its place
    have all : Settled Closes (fun s => (plain (chain .logical s)).bind fun first =>
        (plain (moreArguments first.2)).bind fun more =>
          (more.2.skip .rparen).map fun close => (first.1 :: more.1, close)) last ts := by
      apply (settled_chain .logical last ts).onward (fun _ stop => stop)
        fun first => rests_moreArguments.finishes.closed .rparen (by simp [Closes]) (first :: ·)
      intro first last rest fewer
      exact (settled_moreArguments last rest).closed .rparen (by simp [Closes]) (first :: ·)
    apply all.congr_first
    next => exact fun other same => plain_arguments_some _ (by rwa [kind_behind, same])
    next => exact plain_shorter (arguments _)
    next => exact finishes_arguments.completes last
termination_by ((behind last ts).size, 11)

theorem settled_moreArguments (last : Span) (ts : List Token) :
    Settled Closes (fun s => plain (moreArguments s)) last ts := by
  by_cases comma : firstKind ts = .symbol .comma
  next =>
    apply settled_advance (by simp [comma])
      fun s same => plain_moreArguments_step s (same.trans comma)
    intro last rest fewer
    apply (settled_chain .logical last rest).onward (fun _ stop => stop)
      fun arg => rests_moreArguments.finishes.map (arg :: ·)
    intro arg last later fewest
    exact (settled_moreArguments last later).map (arg :: ·)
  next =>
    exact rests_moreArguments.settled comma
termination_by ((behind last ts).size, 0)

theorem settled_entries (last : Span) (ts : List Token) :
    Settled (· = .symbol .rbrace) (fun s => plain (entries s)) last ts := by
  by_cases close : firstKind ts = .symbol .rbrace
  next => exact rests_entries.settled close
  next =>
    have rbrace : ∀ k, k = TokenKind.symbol .rbrace → Closes k := by simp [Closes]
    have value (key : Expr) : Finishes (fun _ => True) (· = .symbol .rbrace) fun s =>
        (plain (chain .additive s)).bind fun value => entriesRest key value.1 value.2 :=
      (finishes_chain trivial .additive).bind (finishes_entriesRest key)
    have all : Settled (· = .symbol .rbrace) (fun s => (plain (chain .additive s)).bind fun key =>
        (key.2.skip .colon).bind fun colon => (plain (chain .additive colon)).bind fun value =>
          entriesRest key.1 value.1 value.2) last ts := by
      apply (settled_chain .additive last ts).onward rbrace
        fun key => finishes_skip .colon (by simp [Closes]) (value key)
      intro key last rest fewer
      apply settled_skip .colon (value key)
      intro last rest fewer
      apply (settled_chain .additive last rest).onward rbrace (finishes_entriesRest key)
      intro value last rest fewer
      exact settled_entriesRest key value last rest
    apply all.congr_first
    next => exact fun other same => plain_entries_step _ (by rwa [kind_behind, same])
    next => exact fun all rest => plain_entries_shorter _ rest all (by rwa [kind_behind])
    next => exact rests_entries.finishes.completes last
termination_by ((behind last ts).size, 11)

theorem settled_entriesRest (key value : Expr) (last : Span) (ts : List Token) :
    Settled (· = .symbol .rbrace) (entriesRest key value) last ts := by
  by_cases comma : firstKind ts = .symbol .comma
  next =>
    apply settled_advance (by simp [comma])
      fun s same => entriesRest_step key value s (same.trans comma)
    intro last rest fewer
    exact (settled_entries last rest).map ((key, value) :: ·)
  next =>
    exact (rests_entriesRest key value).settled comma
termination_by ((behind last ts).size, 0)

end

mutual

theorem settled_assignment (last : Span) (ts : List Token) :
    Settled Closes (fun s => plain (assignment s)) last ts := by
  rw [funext plain_assignment_rest]
  apply (settled_chain .logical last ts).onward (fun _ stop => stop)
    fun left => (rests_assignmentRest left).finishes
  intro left last rest fewer
  exact settled_assignmentRest left last rest
termination_by ((behind last ts).size, 1)

theorem settled_assignmentRest (left : Expr) (last : Span) (ts : List Token) :
    Settled Closes (assignmentRest left) last ts := by
  by_cases assign : firstKind ts = .symbol .assign
  next =>
    by_cases target : ∃ name, left = .var name
    next =>
      obtain ⟨name, rfl⟩ := target
      apply settled_advance (by simp [assign])
        fun s same => assignmentRest_var name s (same.trans assign)
      intro last rest fewer
      exact (settled_assignment last rest).map (Expr.assign name)
    next =>
      cases ts with
      | nil => cases assign
      | cons t rest =>
        apply Settled.fails (.invalidAssignmentTarget t.span.line t.span.column) [] (t :: rest) rfl
        next =>
          apply Refuses.atToken t rest (.inr rfl)
          intro tail
          exact assignmentRest_invalid left _ assign fun name same => target ⟨name, same⟩
        next => exact (rests_assignmentRest left).finishes.completes last
  next =>
    exact (rests_assignmentRest left).settled assign
termination_by ((behind last ts).size, 0)

end

mutual

theorem settled_statements (inBlock : Bool) (last : Span) (ts : List Token) :
    Settled (endsStatements inBlock · = true) (fun s => plain (statements inBlock s)) last ts := by
  cases ends : endsStatements inBlock (firstKind ts) with
  | true =>
    exact (rests_statements inBlock).settled ends
  | false =>
    have all : Settled (endsStatements inBlock · = true) (fun s =>
        (plain (statement s)).bind fun first =>
          (plain (statements inBlock first.2)).map fun more => (first.1 :: more.1, more.2))
        last ts := by
      apply (settled_statement last ts).onward (fun _ stop => .of_endsStatements stop)
        fun first => ((rests_statements inBlock).finishes.map (first :: ·)).mono
          fun _ stop => .of_endsStatements stop
      intro first last rest fewer
      exact (settled_statements inBlock last rest).map (first :: ·)
    apply all.congr_first
    next => exact fun other same => plain_statements_step inBlock _ (by rwa [kind_behind, same])
    next => exact fun all rest => plain_statements_shorter inBlock _ rest all (by rwa [kind_behind])
    next => exact (rests_statements inBlock).finishes.completes last
termination_by ((behind last ts).size, 2)

theorem settled_statement (last : Span) (ts : List Token) :
    Settled Closes (fun s => plain (statement s)) last ts := by
  by_cases word : firstKind ts = .keyword .ifWord
  next =>
    have branches (condition : Expr) (block : List Stmt) : Finishes Closes Closes fun s =>
        (plain (elifs s)).bind fun branches => (plain (otherwise branches.2)).map fun last =>
          (Stmt.conditional condition block branches.1 last.1, last.2) :=
      rests_elifs.finishes.bind fun branches =>
        rests_otherwise.finishes.map (Stmt.conditional condition block branches)
    apply settled_advance (by simp [word])
      fun s same => plain_statement_conditional s (same.trans word)
    intro last rest fewer
    apply (settled_chain .logical last rest).onward (fun _ stop => stop)
      fun condition => finishes_body.bind (branches condition)
    intro condition last rest fewer
    apply (settled_body last rest).onward (fun _ stop => stop) (branches condition)
    intro block last rest fewer
    apply (settled_elifs last rest).onward (fun _ stop => stop)
      fun branches => rests_otherwise.finishes.map (Stmt.conditional condition block branches)
    intro branches last rest fewer
    exact (settled_otherwise last rest).map (Stmt.conditional condition block branches)
  next =>
    apply ((settled_assignment last ts).map Stmt.expr).congr_first
    next => exact fun other same => plain_statement_expression _ (by rwa [kind_behind, same])
    next => exact plain_shorter (statement _)
    next => exact finishes_statement.completes last
termination_by ((behind last ts).size, 1)

theorem settled_body (last : Span) (ts : List Token) :
    Settled Closes (fun s => plain (body s)) last ts := by
  rw [funext plain_body]
  have block : Finishes (fun _ => True) Closes fun s => (plain (statements true s)).bind fun inner =>
      (inner.2.skip .rbrace).map fun close => (inner.1, close) :=
    ((rests_statements true).finishes.closed .rbrace rfl id).anyhow
  apply settled_skip .colon (finishes_skip .lbrace trivial block)
  intro last rest fewer
  apply settled_skip .lbrace block
  intro last rest fewer
  exact (settled_statements true last rest).closed .rbrace rfl id
termination_by ((behind last ts).size, 0)

theorem settled_elifs (last : Span) (ts : List Token) :
    Settled Closes (fun s => plain (elifs s)) last ts := by
  by_cases word : firstKind ts = .keyword .elifWord
  next =>
    apply settled_advance (by simp [word]) fun s same => plain_elifs_step s (same.trans word)
    intro last rest fewer
    apply (settled_chain .logical last rest).onward (fun _ stop => stop)
      fun condition => finishes_body.bind
        fun block => rests_elifs.finishes.map ((condition, block) :: ·)
    intro condition last rest fewer
    apply (settled_body last rest).onward (fun _ stop => stop)
      fun block => rests_elifs.finishes.map ((condition, block) :: ·)
    intro block last rest fewer
    exact (settled_elifs last rest).map ((condition, block) :: ·)
  next =>
    exact rests_elifs.settled word
termination_by ((behind last ts).size, 0)

theorem settled_otherwise (last : Span) (ts : List Token) :
    Settled Closes (fun s => plain (otherwise s)) last ts := by
  by_cases word : firstKind ts = .keyword .elseWord
  next =>
    apply settled_advance (by simp [word]) fun s same => plain_otherwise_some s (same.trans word)
    intro last rest fewer
    exact (settled_body last rest).map some
  next =>
    exact rests_otherwise.settled word
termination_by ((behind last ts).size, 0)

end

end Parser

namespace Program

open TableScript.Input TableScript.Parser

def Begins (front : List Token) : Prop :=
  ∃ more p, (∀ t ∈ more, t.kind ≠ .eof) ∧ ofTokens (front ++ more) = .ok p

/-- The tokens before place `k` begin a program, and the error is raised there for what stands there,
be it a token or the end, and for nothing behind it. -/
structure RefusedAt (ts : List Token) (e : SyntaxError) (k : Nat) : Prop where
  inside : k ≤ ts.length
  begins : Begins (ts.take k)
  atToken : ∀ t, ts[k]? = some t → e.At t ∧ ∀ tail, ofTokens (ts.take (k + 1) ++ tail) = .error e
  atEnd : k = ts.length → ∃ expected last, ts.getLast? = some last ∧
    e = .unexpectedToken expected .eof last.span.line last.span.column

theorem ofTokens_eq (ts : List Token) :
    ofTokens ts = (plain (statements false (behind ⟨0, 0, 0, 0⟩ ts))).map (·.1) := by
  have started : Input.start (ts.map .ok) = .ok (behind ⟨0, 0, 0, 0⟩ ts) := by cases ts <;> rfl
  rw [ofTokens, ofItems_eq, started]
  rfl

theorem refusedAt_of_refuses {front rest : List Token} {e : SyntaxError} (begins : Begins front)
    (h : Refuses (fun s => plain (statements false s)) ⟨0, 0, 0, 0⟩ front e rest) :
    RefusedAt (front ++ rest) e front.length := by
  have before : (front ++ rest).take front.length = front := List.take_left
  refine ⟨by simp, by rwa [before], ?_, ?_⟩
  next =>
    intro t here
    cases h with
    | atEnd => simp at here
    | atToken found later place fails =>
      obtain rfl : found = t := by simpa using here
      refine ⟨place, fun tail => ?_⟩
      have upTo : (front ++ found :: later).take (front.length + 1) = front ++ [found] := by
        rw [List.take_length_add_append]
        rfl
      rw [upTo, List.append_assoc, ofTokens_eq]
      exact congrArg (Except.map _) (fails tail)
  next =>
    intro whole
    cases h with
    | atToken found later place fails => simp at whole
    | atEnd expected fails place =>
      cases last : front.getLast? with
      | none =>
        -- the empty program is read
        obtain rfl := List.getLast?_eq_none_iff.mp last
        rw [plain_statements_stop false _ rfl] at fails
        cases fails
      | some t =>
        rw [spanAfter_of_getLast? _ _ _ last] at place
        exact ⟨expected, t, by simpa using last, place⟩

theorem begins_of_completes {front : List Token}
    (h : Completes (endsStatements false · = true) (fun s => plain (statements false s)) ⟨0, 0, 0, 0⟩
      front) : Begins front := by
  obtain ⟨more, p, noEnd, reads⟩ := h
  have read := reads [] rfl
  rw [List.append_nil] at read
  refine ⟨more, p, noEnd, ?_⟩
  rw [ofTokens_eq]
  exact congrArg (Except.map _) read

theorem ofTokens_error_refusedAt (ts : List Token) (e : SyntaxError) (h : ofTokens ts = .error e) :
    ∃ k, RefusedAt ts e k := by
  rw [ofTokens_eq] at h
  cases settled_statements false ⟨0, 0, 0, 0⟩ ts with
  | reads p front rest split takes =>
    rw [split, takes rest (.inl rfl)] at h
    cases h
  | fails found front rest split refuses completes =>
    subst split
    rw [refuses.eq_error] at h
    cases h
    exact ⟨front.length, refusedAt_of_refuses (begins_of_completes completes) refuses⟩

def unclosedCall : List Token :=
  -- `if f(` on one line and `2, ]:` on the next
  [⟨.keyword .ifWord, ⟨0, 2, 1, 0⟩⟩, ⟨.identifier "f", ⟨3, 4, 1, 3⟩⟩, ⟨.symbol .lparen, ⟨4, 5, 1, 4⟩⟩,
    ⟨.integer 2, ⟨6, 7, 2, 0⟩⟩, ⟨.symbol .comma, ⟨7, 8, 2, 1⟩⟩, ⟨.symbol .rbracket, ⟨9, 10, 2, 3⟩⟩,
    ⟨.symbol .colon, ⟨10, 11, 2, 4⟩⟩]

theorem ofTokens_error_refusedAt_bracket :
    ofTokens unclosedCall = .error (.unexpectedToken .expression (.symbol .rbracket) 2 3) ∧
      ∃ k, RefusedAt unclosedCall (.unexpectedToken .expression (.symbol .rbracket) 2 3) k := by
  have refused : ofTokens unclosedCall =
      .error (.unexpectedToken .expression (.symbol .rbracket) 2 3) := by cbv
  exact ⟨refused, ofTokens_error_refusedAt unclosedCall _ refused⟩

end Program

end TableScript
