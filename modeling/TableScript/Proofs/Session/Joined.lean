import TableScript.Session.Run
import TableScript.Proofs.Syntax.Layout

set_option autoImplicit false

namespace TableScript

variable {E : Engine}

namespace Grammar

def continues (k : TokenKind) : Prop :=
  (∃ (t : Tier) (op : BinaryOperator), (k, op) ∈ t.signs) ∨
    k ∈ [.symbol .assign, .symbol .lparen, .symbol .lbracket, .symbol .comma, .keyword .elifWord,
      .keyword .elseWord]

section

variable {starts : TokenKind → Prop} {rest tail : List TokenKind}

theorem Ends.append (h : Ends starts rest) (h' : Ends starts tail) : Ends starts (rest ++ tail) := by
  cases rest with
  | nil => exact h'
  | cons k rest => exact h

theorem Ends.before (h : Ends starts rest) (closed : rest ≠ []) : Ends starts (rest ++ tail) := by
  cases rest with
  | nil => exact absurd rfl closed
  | cons k rest => exact h

-- a part that could end in front of the tail does
theorem Ends.joined (h : Ends starts rest) (fresh : Ends continues tail)
    (some : ∀ k, starts k → continues k) : Ends starts (rest ++ tail) :=
  h.append (fresh.mono some)

end

def ClosedIn : Part → List TokenKind → Prop
  | .statements, rest | .entries, rest | .arguments, rest => rest ≠ []
  | _, _ => True

theorem Derives.append {part : Part} {ts rest : List TokenKind} {v : part.Meaning}
    (h : Derives part ts v rest) (closed : ClosedIn part rest) (tail : List TokenKind)
    (fresh : Ends continues tail) : Derives part (ts ++ tail) v (rest ++ tail) := by
  induction h with
  -- a closing token follows, and it ends the part whatever comes behind it
  | noStatement last => exact .noStatement (last.before closed)
  | noEntry last => exact .noEntry (last.before closed)
  | noArgument last => exact .noArgument (last.before closed)
  | block _ ih => exact .block (ih (List.cons_ne_nil _ _))
  | dict _ ih => exact .dict (ih (List.cons_ne_nil _ _))
  | call _ ih => exact .call (ih (List.cons_ne_nil _ _))
  -- the tail may follow, and it goes on with none of these
  | noElif last => exact .noElif (last.joined fresh (by rintro k rfl; simp [continues]))
  | noElse last => exact .noElse (last.joined fresh (by rintro k rfl; simp [continues]))
  | plain _ last ih =>
    exact .plain (ih trivial) (last.joined fresh (by rintro k rfl; simp [continues]))
  | noOperation last => exact .noOperation (last.joined fresh fun k sign => .inl ⟨_, sign⟩)
  | noSubscript last => exact .noSubscript (last.joined fresh (by rintro k rfl; simp [continues]))
  | var last => exact .var (last.joined fresh (by rintro k (rfl | rfl) <;> simp [continues]))
  | lastEntry _ _ last left right =>
    exact .lastEntry (left trivial) (right trivial) (last.before closed)
  | noMore last => exact .noMore (last.joined fresh (by rintro k rfl; simp [continues]))
  -- the other rules have the tail behind their last part
  | statements _ _ first others => exact .statements (first trivial) (others closed)
  | conditional _ _ _ _ test block branches last =>
    exact .conditional (test trivial) (block trivial) (branches trivial) (last trivial)
  | expression _ ih => exact .expression (ih trivial)
  | elif _ _ _ test block others => exact .elif (test trivial) (block trivial) (others trivial)
  | otherwise _ ih => exact .otherwise (ih trivial)
  | assign _ _ left right => exact .assign (left trivial) (right trivial)
  | chain _ _ first others => exact .chain (first trivial) (others trivial)
  | operation sign _ _ operand others => exact .operation sign (operand trivial) (others trivial)
  | logicalOperand _ ih => exact .logicalOperand (ih trivial)
  | comparisonOperand _ ih => exact .comparisonOperand (ih trivial)
  | additiveOperand _ ih => exact .additiveOperand (ih trivial)
  | multiplicativeOperand _ ih => exact .multiplicativeOperand (ih trivial)
  | factor _ _ first others => exact .factor (first trivial) (others trivial)
  | subscript _ _ inner others => exact .subscript (inner trivial) (others trivial)
  | unary sign _ operand => exact .unary sign (operand trivial)
  | int => exact .int
  | trueWord => exact .trueWord
  | falseWord => exact .falseWord
  | str => exact .str
  | parenthesized _ ih => exact .parenthesized (ih trivial)
  | namedAssign _ ih => exact .namedAssign (ih trivial)
  | entry _ _ _ left right others => exact .entry (left trivial) (right trivial) (others closed)
  | arguments _ _ first others => exact .arguments (first trivial) (others trivial)
  | more _ _ first others => exact .more (first trivial) (others trivial)

theorem DerivesProgram.append {ts tail : List TokenKind} {p q : Program} (h : DerivesProgram ts p)
    (h' : DerivesProgram tail q) (fresh : Ends continues tail) :
    DerivesProgram (ts ++ tail) (p ++ q) := by
  induction p generalizing ts with
  | nil =>
    cases h
    exact h'
  | cons s p ih =>
    cases h with
    | statements first others => exact .statements (first.append trivial tail fresh) (ih others)

-- Of the tokens that begin a statement, only these three also go on with an expression.
theorem not_continues (k : TokenKind) (starts : startsStatement k)
    (other : k ∉ [.symbol .plus, .symbol .minus, .symbol .lparen]) : ¬ continues k := by
  rintro (⟨t, op, sign⟩ | listed)
  next =>
    cases t <;> simp [Tier.signs] at sign <;>
      grind [startsStatement, startsExpression]
  next =>
    simp only [List.mem_cons, List.not_mem_nil, or_false] at listed
    rcases listed with rfl | rfl | rfl | rfl | rfl | rfl <;>
      simp [startsStatement, startsExpression] at starts other

theorem DerivesProgram.ends {ks : List TokenKind} {p : Program} (h : DerivesProgram ks p)
    (other : ∀ k ∈ ks.head?, k ∉ [.symbol .plus, .symbol .minus, .symbol .lparen]) :
    Ends continues ks := by
  intro k first
  cases h with
  | noStatement => cases first
  | statements one others =>
    obtain ⟨k', rest, rfl, starts⟩ := one.opens
    cases first
    exact not_continues _ starts (other _ rfl)

end Grammar

theorem Program.parse_append (first second : String) (p q : Program) (reads : parse first = .ok p)
    (reads' : parse second = .ok q)
    (other : ∀ t ts, tokenize second = .ok (t :: ts) →
      t.kind ∉ [.symbol .plus, .symbol .minus, .symbol .lparen]) :
    parse (first ++ "\n" ++ second) = .ok (p ++ q) := by
  obtain ⟨ks, spelled, derives⟩ := (parse_eq_ok_iff first p).mp reads
  obtain ⟨ks', spelled', derives'⟩ := (parse_eq_ok_iff second q).mp reads'
  have fresh : Grammar.Ends Grammar.continues ks' := by
    apply derives'.ends
    intro k start
    obtain ⟨ts, items, kinds⟩ := Lexer.exists_results (Lexer.ofSource second) ks' spelled'
    cases ks' with
    | nil => cases start
    | cons k ks' =>
      cases start
      obtain ⟨t, ts, rfl, rfl, -⟩ := List.map_eq_cons_iff.mp kinds
      exact other t ts ((Lexer.collect_eq_ok_iff _ _).mpr items)
  have text : (first ++ "\n" ++ second).toList = first.toList ++ '\n' :: second.toList := by simp
  refine (parse_eq_ok_iff _ _).mpr ⟨ks ++ ks', ?_, derives.append derives' fresh⟩
  rw [text]
  exact spelled.append spelled' '\n' (by decide)

namespace Session

theorem run_append (s : Session E) (settings : Settings) (p q : Program) :
    s.run settings (p ++ q) =
      match s.run settings p with
      | (.ok (), middle) => middle.run settings q
      | (.error e, middle) => (.error e, middle) := by
  unfold run
  induction p generalizing s with
  | nil => rfl
  | cons stmt p ih =>
    rw [List.cons_append, Stmt.runAll, Stmt.runAll, Run.run_bind, Run.run_bind]
    generalize (Stmt.run settings stmt).run.run s = done
    obtain ⟨_ | _, middle⟩ := done
    next => rfl
    next => exact ih middle

theorem joined_sources_run_in_turn (first second : String) (p q : Program)
    (reads : Program.parse first = .ok p) (reads' : Program.parse second = .ok q)
    (other : ∀ t ts, tokenize second = .ok (t :: ts) →
      t.kind ∉ [.symbol .plus, .symbol .minus, .symbol .lparen]) :
    Program.parse (first ++ "\n" ++ second) = .ok (p ++ q) ∧
      ∀ (E : Engine) (s : Session E) (settings : Settings),
        s.runSource settings (first ++ "\n" ++ second) =
          match s.runSource settings first with
          | (.ok (), middle) => middle.runSource settings second
          | (.error e, middle) => (.error e, middle) := by
  have joined := Program.parse_append first second p q reads reads' other
  refine ⟨joined, fun E s settings => ?_⟩
  simp only [runSource, joined, reads, reads', run_append]
  generalize s.run settings p = done
  obtain ⟨_ | _, middle⟩ := done <;> rfl

theorem joined_sources_run_in_turn_braces :
    Program.parse "x = y" = .ok [.expr (.assign "x" (.var "y"))] ∧
    Program.parse "\x7b1: x\x7d" = .ok [.expr (.dict [(.int 1, .var "x")])] ∧
    Program.parse ("x = y" ++ "\n" ++ "\x7b1: x\x7d") =
      .ok [.expr (.assign "x" (.var "y")), .expr (.dict [(.int 1, .var "x")])] := by
  have items : (Lexer.ofSource "x = y").results =
      [.ok ⟨.identifier "x", ⟨0, 1, 1, 0⟩⟩, .ok ⟨.symbol .assign, ⟨2, 3, 1, 2⟩⟩,
        .ok ⟨.identifier "y", ⟨4, 5, 1, 4⟩⟩, .ok ⟨.eof, ⟨5, 5, 1, 5⟩⟩] := by
    set_option maxRecDepth 4000 in
    rw [Lexer.results_of_ok _ ⟨.identifier "x", ⟨0, 1, 1, 0⟩⟩ _ rfl (by decide),
      Lexer.results_of_ok _ ⟨.symbol .assign, ⟨2, 3, 1, 2⟩⟩ _ rfl (by decide),
      Lexer.results_of_ok _ ⟨.identifier "y", ⟨4, 5, 1, 4⟩⟩ _ rfl (by decide),
      Lexer.results_of_end _ ⟨.eof, ⟨5, 5, 1, 5⟩⟩ _ rfl rfl]
  have items' : (Lexer.ofSource "\x7b1: x\x7d").results =
      [.ok ⟨.symbol .lbrace, ⟨0, 1, 1, 0⟩⟩, .ok ⟨.integer 1, ⟨1, 2, 1, 1⟩⟩,
        .ok ⟨.symbol .colon, ⟨2, 3, 1, 2⟩⟩, .ok ⟨.identifier "x", ⟨4, 5, 1, 4⟩⟩,
        .ok ⟨.symbol .rbrace, ⟨5, 6, 1, 5⟩⟩, .ok ⟨.eof, ⟨6, 6, 1, 6⟩⟩] := by
    set_option maxRecDepth 4000 in
    rw [Lexer.results_of_ok _ ⟨.symbol .lbrace, ⟨0, 1, 1, 0⟩⟩ _ rfl (by decide),
      Lexer.results_of_ok _ ⟨.integer 1, ⟨1, 2, 1, 1⟩⟩ _ rfl (by decide),
      Lexer.results_of_ok _ ⟨.symbol .colon, ⟨2, 3, 1, 2⟩⟩ _ rfl (by decide),
      Lexer.results_of_ok _ ⟨.identifier "x", ⟨4, 5, 1, 4⟩⟩ _ rfl (by decide),
      Lexer.results_of_ok _ ⟨.symbol .rbrace, ⟨5, 6, 1, 5⟩⟩ _ rfl (by decide),
      Lexer.results_of_end _ ⟨.eof, ⟨6, 6, 1, 6⟩⟩ _ rfl rfl]
  have reads : Program.parse "x = y" = .ok [.expr (.assign "x" (.var "y"))] := by
    rw [Program.parse, items]
    cbv
  have reads' : Program.parse "\x7b1: x\x7d" = .ok [.expr (.dict [(.int 1, .var "x")])] := by
    rw [Program.parse, items']
    cbv
  have other : ∀ t ts, tokenize "\x7b1: x\x7d" = .ok (t :: ts) →
      t.kind ∉ [.symbol .plus, .symbol .minus, .symbol .lparen] := by
    intro t ts found
    rw [tokenize, items'] at found
    cases found
    decide
  exact ⟨reads, reads', (joined_sources_run_in_turn _ _ _ _ reads reads' other).1⟩

end Session

end TableScript
