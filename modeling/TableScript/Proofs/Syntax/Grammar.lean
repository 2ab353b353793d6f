import TableScript.Syntax.Parser

set_option autoImplicit false

namespace TableScript

def Tier.signs : Tier → List (TokenKind × BinaryOperator)
  | .logical => [(.keyword .andWord, .and), (.keyword .orWord, .or)]
  | .comparison =>
    [(.symbol .equalEqual, .equal), (.symbol .notEqual, .notEqual), (.symbol .less, .less),
      (.symbol .greater, .greater), (.symbol .lessEqual, .lessEqual),
      (.symbol .greaterEqual, .greaterEqual)]
  | .additive => [(.symbol .plus, .add), (.symbol .minus, .sub)]
  | .multiplicative => [(.symbol .star, .mul), (.symbol .slash, .div)]

theorem Tier.eof_not_sign (t : Tier) (op : BinaryOperator) : (.eof, op) ∉ t.signs := by
  cases t <;> simp [signs]

def UnaryOperator.signs : List (TokenKind × UnaryOperator) :=
  [(.keyword .notWord, .not), (.symbol .plus, .plus), (.symbol .minus, .minus)]

namespace Grammar

inductive Part where
  | statements
  | statement
  | block
  | elifs
  | otherwise
  | assignment
  | chain (t : Tier)
  | operations (t : Tier)
  | operand (t : Tier)
  | factor
  | subscripts
  | primary
  | entries
  | arguments
  | moreArguments

@[reducible] def Part.Meaning : Part → Type
  | .statements | .block => List Stmt
  | .statement => Stmt
  | .elifs => List (Expr × List Stmt)
  | .otherwise => Option (List Stmt)
  | .assignment | .chain _ | .operand _ | .factor | .primary => Expr
  | .operations _ => List (BinaryOperator × Expr)
  | .subscripts | .arguments | .moreArguments => List Expr
  | .entries => List (Expr × Expr)

def startsExpression : TokenKind → Prop
  | .identifier _ | .integer _ | .string _ => True
  | .keyword k => k = .notWord ∨ k = .trueWord ∨ k = .falseWord
  | .symbol s => s = .plus ∨ s = .minus ∨ s = .lbrace ∨ s = .lparen
  | .eof => False

def startsStatement (k : TokenKind) : Prop := k = .keyword .ifWord ∨ startsExpression k

def Ends (starts : TokenKind → Prop) (rest : List TokenKind) : Prop :=
  ∀ k ∈ rest.head?, ¬ starts k

@[simp] theorem ends_nil (starts : TokenKind → Prop) : Ends starts [] := by simp [Ends]

@[simp] theorem ends_cons (starts : TokenKind → Prop) (k : TokenKind) (rest : List TokenKind) :
    Ends starts (k :: rest) ↔ ¬ starts k := by simp [Ends]

theorem Ends.mono {starts fewer : TokenKind → Prop} {rest : List TokenKind} (h : Ends starts rest)
    (within : ∀ k, fewer k → starts k) : Ends fewer rest :=
  fun k first more => h k first (within k more)

def grouped (first : Expr) (steps : List (BinaryOperator × Expr)) : Expr :=
  steps.foldl (fun left step => .binary step.1 left step.2) first

inductive Derives : (part : Part) → List TokenKind → part.Meaning → List TokenKind → Prop where
  -- statement*, in a program and in a block
  | noStatement {rest} (last : Ends startsStatement rest) : Derives .statements rest [] rest
  | statements {ts mid rest s more} (first : Derives .statement ts s mid)
      (others : Derives .statements mid more rest) : Derives .statements ts (s :: more) rest
  -- IF logical ':' block (ELIF logical ':' block)* (ELSE ':' block)?, or an assignment or expression
  | conditional {ts mid mid' mid'' rest condition body elifs otherwise}
      (test : Derives (.chain .logical) ts condition (.symbol .colon :: mid))
      (block : Derives .block mid body mid') (branches : Derives .elifs mid' elifs mid'')
      (last : Derives .otherwise mid'' otherwise rest) :
      Derives .statement (.keyword .ifWord :: ts) (Stmt.conditional condition body elifs otherwise)
        rest
  | expression {ts rest e} (h : Derives .assignment ts e rest) :
      Derives .statement ts (Stmt.expr e) rest
  | block {ts rest body} (h : Derives .statements ts body (.symbol .rbrace :: rest)) :
      Derives .block (.symbol .lbrace :: ts) body rest
  | noElif {rest} (last : Ends (· = .keyword .elifWord) rest) : Derives .elifs rest [] rest
  | elif {ts mid mid' rest condition body more}
      (test : Derives (.chain .logical) ts condition (.symbol .colon :: mid))
      (block : Derives .block mid body mid') (others : Derives .elifs mid' more rest) :
      Derives .elifs (.keyword .elifWord :: ts) ((condition, body) :: more) rest
  | noElse {rest} (last : Ends (· = .keyword .elseWord) rest) : Derives .otherwise rest none rest
  | otherwise {ts rest body} (h : Derives .block ts body rest) :
      Derives .otherwise (.keyword .elseWord :: .symbol .colon :: ts) (some body) rest
  -- logical ('=' assignment)?, whose left side spells a variable
  | plain {ts rest e} (h : Derives (.chain .logical) ts e rest)
      (last : Ends (· = .symbol .assign) rest) : Derives .assignment ts e rest
  | assign {ts mid rest target value}
      (left : Derives (.chain .logical) ts (Expr.var target) (.symbol .assign :: mid))
      (right : Derives .assignment mid value rest) :
      Derives .assignment ts (Expr.assign target value) rest
  -- operand (sign operand)*, where an operand of one tier is a chain of the next
  | chain {t ts mid rest e steps} (first : Derives (.operand t) ts e mid)
      (others : Derives (.operations t) mid steps rest) : Derives (.chain t) ts (grouped e steps) rest
  | noOperation {t rest} (last : Ends (fun k => ∃ op, (k, op) ∈ t.signs) rest) :
      Derives (.operations t) rest [] rest
  | operation {t k op ts mid rest e steps} (sign : (k, op) ∈ t.signs)
      (operand : Derives (.operand t) ts e mid) (others : Derives (.operations t) mid steps rest) :
      Derives (.operations t) (k :: ts) ((op, e) :: steps) rest
  | logicalOperand {ts rest e} (h : Derives (.chain .comparison) ts e rest) :
      Derives (.operand .logical) ts e rest
  | comparisonOperand {ts rest e} (h : Derives (.chain .additive) ts e rest) :
      Derives (.operand .comparison) ts e rest
  | additiveOperand {ts rest e} (h : Derives (.chain .multiplicative) ts e rest) :
      Derives (.operand .additive) ts e rest
  | multiplicativeOperand {ts rest e} (h : Derives .factor ts e rest) :
      Derives (.operand .multiplicative) ts e rest
  -- primary ('[' logical ']')*
  | factor {ts mid rest e positions} (first : Derives .primary ts e mid)
      (others : Derives .subscripts mid positions rest) :
      Derives .factor ts (positions.foldl Expr.index e) rest
  | noSubscript {rest} (last : Ends (· = .symbol .lbracket) rest) : Derives .subscripts rest [] rest
  | subscript {ts mid rest position more}
      (inner : Derives (.chain .logical) ts position (.symbol .rbracket :: mid))
      (others : Derives .subscripts mid more rest) :
      Derives .subscripts (.symbol .lbracket :: ts) (position :: more) rest
  -- a sign and a factor, a literal, '{' entries '}', '(' logical ')'
  | unary {k op ts rest e} (sign : (k, op) ∈ UnaryOperator.signs)
      (operand : Derives .factor ts e rest) : Derives .primary (k :: ts) (Expr.unary op e) rest
  | int {n rest} : Derives .primary (.integer n :: rest) (Expr.int n) rest
  | trueWord {rest} : Derives .primary (.keyword .trueWord :: rest) (Expr.bool true) rest
  | falseWord {rest} : Derives .primary (.keyword .falseWord :: rest) (Expr.bool false) rest
  | str {text rest} : Derives .primary (.string text :: rest) (Expr.str text) rest
  | dict {ts rest entries} (h : Derives .entries ts entries (.symbol .rbrace :: rest)) :
      Derives .primary (.symbol .lbrace :: ts) (Expr.dict entries) rest
  | parenthesized {ts rest e} (h : Derives (.chain .logical) ts e (.symbol .rparen :: rest)) :
      Derives .primary (.symbol .lparen :: ts) e rest
  -- a name ('=' logical | '(' arguments ')')?
  | var {name rest} (last : Ends (fun k => k = .symbol .assign ∨ k = .symbol .lparen) rest) :
      Derives .primary (.identifier name :: rest) (Expr.var name) rest
  | namedAssign {name ts rest value} (h : Derives (.chain .logical) ts value rest) :
      Derives .primary (.identifier name :: .symbol .assign :: ts) (Expr.assign name value) rest
  | call {name ts rest args} (h : Derives .arguments ts args (.symbol .rparen :: rest)) :
      Derives .primary (.identifier name :: .symbol .lparen :: ts) (Expr.call name args) rest
  -- entries with commas between them, and maybe one behind the last
  | noEntry {rest} (last : Ends startsExpression rest) : Derives .entries rest [] rest
  | lastEntry {ts mid rest key value}
      (left : Derives (.chain .additive) ts key (.symbol .colon :: mid))
      (right : Derives (.chain .additive) mid value rest) (last : Ends (· = .symbol .comma) rest) :
      Derives .entries ts [(key, value)] rest
  | entry {ts mid mid' rest key value more}
      (left : Derives (.chain .additive) ts key (.symbol .colon :: mid))
      (right : Derives (.chain .additive) mid value (.symbol .comma :: mid'))
      (others : Derives .entries mid' more rest) : Derives .entries ts ((key, value) :: more) rest
  -- (logical (',' logical)*)?
  | noArgument {rest} (last : Ends startsExpression rest) : Derives .arguments rest [] rest
  | arguments {ts mid rest arg more} (first : Derives (.chain .logical) ts arg mid)
      (others : Derives .moreArguments mid more rest) : Derives .arguments ts (arg :: more) rest
  | noMore {rest} (last : Ends (· = .symbol .comma) rest) : Derives .moreArguments rest [] rest
  | more {ts mid rest arg more} (first : Derives (.chain .logical) ts arg mid)
      (others : Derives .moreArguments mid more rest) :
      Derives .moreArguments (.symbol .comma :: ts) (arg :: more) rest

def DerivesProgram (ts : List TokenKind) (p : Program) : Prop := Derives .statements ts p []

def Opens : Part → List TokenKind → Prop
  | .statement, ts => ∃ k rest, ts = k :: rest ∧ startsStatement k
  | .assignment, ts | .chain _, ts | .operand _, ts | .factor, ts | .primary, ts =>
    ∃ k rest, ts = k :: rest ∧ startsExpression k
  | _, _ => True

theorem startsExpression_of_unary (k : TokenKind) (op : UnaryOperator)
    (sign : (k, op) ∈ UnaryOperator.signs) : startsExpression k := by
  simp only [UnaryOperator.signs, List.mem_cons, Prod.mk.injEq, List.not_mem_nil, or_false] at sign
  rcases sign with ⟨rfl, -⟩ | ⟨rfl, -⟩ | ⟨rfl, -⟩ <;> simp [startsExpression]

theorem Derives.opens {part : Part} {ts rest : List TokenKind} {v : part.Meaning}
    (h : Derives part ts v rest) : Opens part ts := by
  induction h with
  | conditional => exact ⟨_, _, rfl, .inl rfl⟩
  | expression _ ih =>
    obtain ⟨k, rest, shape, starts⟩ := ih
    exact ⟨k, rest, shape, .inr starts⟩
  | unary sign => exact ⟨_, _, rfl, startsExpression_of_unary _ _ sign⟩
  | int | trueWord | falseWord | str | dict | parenthesized | var | namedAssign | call =>
    exact ⟨_, _, rfl, by simp [startsExpression]⟩
  | plain _ _ ih => exact ih
  | assign _ _ ih => exact ih
  | chain _ _ ih => exact ih
  | logicalOperand _ ih => exact ih
  | comparisonOperand _ ih => exact ih
  | additiveOperand _ ih => exact ih
  | multiplicativeOperand _ ih => exact ih
  | factor _ _ ih => exact ih
  | _ => trivial

theorem Derives.eof_mem {part : Part} {ts rest : List TokenKind} {v : part.Meaning}
    (h : Derives part ts v rest) (last : .eof ∈ ts) : .eof ∈ rest := by
  induction h with
  | operation sign _ _ ih ih' =>
    rcases List.mem_cons.mp last with rfl | later
    next => exact absurd sign (Tier.eof_not_sign _ _)
    next => exact ih' (ih later)
  | unary sign _ ih =>
    rcases List.mem_cons.mp last with rfl | later
    next => simp [UnaryOperator.signs] at sign
    next => exact ih later
  | _ => grind

end Grammar

end TableScript
