import TableScript.Proofs.Syntax.Completeness

set_option autoImplicit false

namespace TableScript

inductive Level where
  | assignment
  | tier (t : Tier)
  | unary
  | primary
deriving DecidableEq

namespace Level

def value : Level → Int
  | .assignment => -1
  | .tier .logical => 0
  | .tier .comparison => 1
  | .tier .additive => 2
  | .tier .multiplicative => 3
  | .unary => 4
  | .primary => 5

def next : Level → Level
  | .assignment => .tier .logical
  | .tier .logical => .tier .comparison
  | .tier .comparison => .tier .additive
  | .tier .additive => .tier .multiplicative
  | .tier .multiplicative => .unary
  -- nothing is tighter than a primary
  | .unary | .primary => .primary

theorem value_injective (l m : Level) (h : l.value = m.value) : l = m := by
  rcases l with _ | (_ | _ | _ | _) | _ | _ <;> rcases m with _ | (_ | _ | _ | _) | _ | _ <;>
    simp [value] at h ⊢

theorem value_le (l : Level) : l.value ≤ 5 := by
  rcases l with _ | (_ | _ | _ | _) | _ | _ <;> decide

theorem value_next (l : Level) (h : l.value < 5) : l.next.value = l.value + 1 := by
  rcases l with _ | (_ | _ | _ | _) | _ | _ <;> simp [value, next] at h ⊢

theorem value_assignment_le (l : Level) : Level.assignment.value ≤ l.value := by
  rcases l with _ | (_ | _ | _ | _) | _ | _ <;> decide

end Level

def BinaryOperator.sign : BinaryOperator → TokenKind
  | .and => .keyword .andWord
  | .or => .keyword .orWord
  | .equal => .symbol .equalEqual
  | .notEqual => .symbol .notEqual
  | .less => .symbol .less
  | .greater => .symbol .greater
  | .lessEqual => .symbol .lessEqual
  | .greaterEqual => .symbol .greaterEqual
  | .add => .symbol .plus
  | .sub => .symbol .minus
  | .mul => .symbol .star
  | .div => .symbol .slash

theorem BinaryOperator.sign_injective (op other : BinaryOperator) (h : op.sign = other.sign) :
    op = other := by
  cases op <;> cases other <;> simp [sign] at h ⊢

theorem Tier.mem_signs_iff (t : Tier) (k : TokenKind) (op : BinaryOperator) :
    (k, op) ∈ t.signs ↔ k = op.sign ∧ ofOperator op = t := by
  cases t <;> cases op <;> simp [signs, ofOperator, BinaryOperator.sign]

def UnaryOperator.sign : UnaryOperator → TokenKind
  | .not => .keyword .notWord
  | .plus => .symbol .plus
  | .minus => .symbol .minus

theorem UnaryOperator.sign_mem (op : UnaryOperator) : (op.sign, op) ∈ signs := by
  cases op <;> simp [signs, sign]

def enclosed (required own : Level) (ts : List TokenKind) : List TokenKind :=
  if own.value < required.value then .symbol .lparen :: (ts ++ [.symbol .rparen]) else ts

def comma {α : Type} (later : List α) : List TokenKind :=
  if later.isEmpty then [] else [.symbol .comma]

namespace Expr

def level : Expr → Level
  | .assign .. => .assignment
  | .binary op .. => .tier (.ofOperator op)
  | .unary .. => .unary
  | _ => .primary

mutual

def bare : Expr → List TokenKind
  | .int n => [.integer n]
  | .str s => [.string s]
  | .bool b => [.keyword (if b then .trueWord else .falseWord)]
  | .dict entries => .symbol .lbrace :: (bareEntries entries ++ [.symbol .rbrace])
  | .binary op left right =>
    enclosed (.tier (.ofOperator op)) left.level left.bare ++
      op.sign :: enclosed (Level.tier (.ofOperator op)).next right.level right.bare
  | .unary op operand => op.sign :: enclosed .unary operand.level operand.bare
  | .var name => [.identifier name]
  | .assign target value =>
    .identifier target :: .symbol .assign :: enclosed .assignment value.level value.bare
  | .call function args =>
    .identifier function :: .symbol .lparen :: (bareArguments args ++ [.symbol .rparen])
  | .index container position =>
    enclosed .primary container.level container.bare ++
      .symbol .lbracket :: (enclosed .assignment position.level position.bare ++ [.symbol .rbracket])

def bareArguments : List Expr → List TokenKind
  | [] => []
  | arg :: later => enclosed .assignment arg.level arg.bare ++ (comma later ++ bareArguments later)

def bareEntries : List (Expr × Expr) → List TokenKind
  | [] => []
  | (key, value) :: later =>
    enclosed (.tier .additive) key.level key.bare ++ .symbol .colon ::
      (enclosed (.tier .additive) value.level value.bare ++ (comma later ++ bareEntries later))

end

def tokens (required : Level) (e : Expr) : List TokenKind := enclosed required e.level e.bare

end Expr

namespace Stmt

mutual

def tokens : Stmt → List TokenKind
  -- without the parentheses a statement could go on in the next one
  | .expr e => .symbol .lparen :: (e.tokens .assignment ++ [.symbol .rparen])
  | .conditional condition body elifs otherwise =>
    .keyword .ifWord :: (condition.tokens .assignment ++ .symbol .colon :: .symbol .lbrace ::
      (allTokens body ++ .symbol .rbrace :: (elifTokens elifs ++ otherwiseTokens otherwise)))

def allTokens : List Stmt → List TokenKind
  | [] => []
  | s :: later => s.tokens ++ allTokens later

def elifTokens : List (Expr × List Stmt) → List TokenKind
  | [] => []
  | (condition, body) :: later =>
    .keyword .elifWord :: (condition.tokens .assignment ++ .symbol .colon :: .symbol .lbrace ::
      (allTokens body ++ .symbol .rbrace :: elifTokens later))

def otherwiseTokens : Option (List Stmt) → List TokenKind
  | none => []
  | some body =>
    .keyword .elseWord :: .symbol .colon :: .symbol .lbrace :: (allTokens body ++ [.symbol .rbrace])

end

end Stmt

def Program.tokens (p : Program) : List TokenKind := Stmt.allTokens p

namespace Grammar

def Continues (l : Level) (k : TokenKind) : Prop :=
  k = .symbol .lparen ∨ k = .symbol .assign ∨
    (k = .symbol .lbracket ∧ l.value < Level.primary.value) ∨
    ∃ op : BinaryOperator, k = op.sign ∧ l.value < (Level.tier (.ofOperator op)).value

theorem continues_of_le (l m : Level) (h : l.value ≤ m.value) (k : TokenKind)
    (more : Continues m k) : Continues l k := by
  rcases more with paren | assign | ⟨bracket, loose⟩ | ⟨op, sign, loose⟩
  next => exact .inl paren
  next => exact .inr (.inl assign)
  next => exact .inr (.inr (.inl ⟨bracket, by omega⟩))
  next => exact .inr (.inr (.inr ⟨op, sign, by omega⟩))

def closers : List Symbol := [.rparen, .rbracket, .rbrace, .colon, .comma]

theorem ends_closer (l : Level) (s : Symbol) (rest : List TokenKind) (h : s ∈ closers) :
    Ends (Continues l) (.symbol s :: rest) := by
  rw [ends_cons]
  rintro (paren | assign | ⟨bracket, -⟩ | ⟨op, sign, -⟩)
  next => cases paren; simp [closers] at h
  next => cases assign; simp [closers] at h
  next => cases bracket; simp [closers] at h
  next => cases op <;> cases sign <;> simp [closers] at h

theorem not_continues_bracket : ¬ Continues .primary (.symbol .lbracket) := by
  rintro (paren | assign | ⟨-, loose⟩ | ⟨op, sign, -⟩)
  next => cases paren
  next => cases assign
  next => exact absurd loose (by decide)
  next => cases op <;> cases sign

theorem not_continues_sign (op : BinaryOperator) : ¬ Continues (.tier (.ofOperator op)) op.sign := by
  rintro (paren | assign | ⟨bracket, -⟩ | ⟨other, sign, loose⟩)
  next => cases op <;> cases paren
  next => cases op <;> cases assign
  next => cases op <;> cases bracket
  next =>
    -- one sign belongs to one operator, and that is no tighter than itself
    cases BinaryOperator.sign_injective op other sign
    omega

theorem ends_bracket (l : Level) (h : l.value < Level.primary.value) (rest : List TokenKind)
    (last : Ends (Continues l) rest) : Ends (· = .symbol .lbracket) rest :=
  last.mono fun _ bracket => .inr (.inr (.inl ⟨bracket, h⟩))

theorem ends_operations (t : Tier) (l : Level) (h : l.value < (Level.tier t).value)
    (rest : List TokenKind) (last : Ends (Continues l) rest) :
    Ends (fun k => ∃ op, (k, op) ∈ t.signs) rest := by
  refine last.mono fun k sign => ?_
  obtain ⟨op, sign⟩ := sign
  rw [Tier.mem_signs_iff] at sign
  obtain ⟨rfl, rfl⟩ := sign
  exact .inr (.inr (.inr ⟨op, rfl, h⟩))

/--
The tokens `ts` spell `e` wherever a node of this level may stand. At a tier and at a primary, the
operations and the subscripts behind `ts` belong to the same part, and `e` is the first of it.
-/
def Serves : Level → Expr → List TokenKind → Prop
  | .assignment, e, ts =>
    ∀ rest, Ends (Continues .assignment) rest → Derives (.chain .logical) (ts ++ rest) e rest
  | .tier t, e, ts =>
    ∀ rest steps after, Ends (Continues (.tier t)) rest → Derives (.operations t) rest steps after →
      Derives (.chain t) (ts ++ rest) (grouped e steps) after
  | .unary, e, ts => ∀ rest, Ends (Continues .unary) rest → Derives .factor (ts ++ rest) e rest
  | .primary, e, ts =>
    ∀ rest positions after, Ends (Continues .primary) rest →
      Derives .subscripts rest positions after →
      Derives .factor (ts ++ rest) (positions.foldl Expr.index e) after

variable {e : Expr} {ts rest : List TokenKind}

theorem Serves.chain {t : Tier} (l : Level) (looser : l.value < (Level.tier t).value)
    (h : Serves (.tier t) e ts) (last : Ends (Continues l) rest) :
    Derives (.chain t) (ts ++ rest) e rest := by
  -- what cannot go on the looser place has no sign of this tier either, so no operations follow
  have ends := last.mono (continues_of_le l (.tier t) (by omega))
  exact h rest [] rest ends (.noOperation (ends_operations t l looser rest last))

theorem Serves.operand (t : Tier) (h : Serves (Level.tier t).next e ts)
    (last : Ends (Continues (.tier t)) rest) : Derives (.operand t) (ts ++ rest) e rest := by
  cases t with
  | logical => exact .logicalOperand (Serves.chain (t := .comparison) _ (by decide) h last)
  | comparison => exact .comparisonOperand (Serves.chain (t := .additive) _ (by decide) h last)
  | additive => exact .additiveOperand (Serves.chain (t := .multiplicative) _ (by decide) h last)
  | multiplicative =>
    exact .multiplicativeOperand (h rest (last.mono (continues_of_le _ .unary (by decide))))

theorem serves_of_next (l : Level) (h : Serves l.next e ts) : Serves l e ts := by
  cases l with
  | assignment =>
    intro rest last
    exact Serves.chain (t := .logical) _ (by decide) h last
  | tier t =>
    intro rest steps after last others
    exact .chain (Serves.operand t h last) others
  | unary =>
    intro rest last
    have ends := ends_bracket .unary (by decide) rest last
    exact h rest [] rest (last.mono (continues_of_le _ _ (by decide))) (.noSubscript ends)
  | primary => exact h

theorem serves_of_le (l m : Level) (h : l.value ≤ m.value) (serves : Serves m e ts) :
    Serves l e ts := by
  -- on how many levels lie between the two
  induction distance : (m.value - l.value).toNat generalizing l with
  | zero =>
    obtain rfl : l = m := Level.value_injective l m (by omega)
    exact serves
  | succ n ih =>
    have step := l.value_next (by have := m.value_le; omega)
    exact serves_of_next l (ih l.next (by omega) (by omega))

theorem serves_parenthesized (h : Serves .assignment e ts) :
    Serves .primary e (.symbol .lparen :: (ts ++ [.symbol .rparen])) := by
  intro rest positions after last others
  have inner : Derives (.chain .logical) (ts ++ .symbol .rparen :: rest) e (.symbol .rparen :: rest) :=
    h _ (ends_closer _ .rparen rest (by decide))
  refine .factor (?_ : Derives .primary _ e rest) others
  simpa using Derives.parenthesized inner

theorem serves_tokens (own : Serves e.level e e.bare) (required : Level) :
    Serves required e (e.tokens required) := by
  unfold Expr.tokens enclosed
  split
  next =>
    -- any node fits between parentheses, and with them it fits anywhere
    have loosest := serves_of_le .assignment e.level (Level.value_assignment_le _) own
    exact serves_of_le required .primary required.value_le (serves_parenthesized loosest)
  next tight => exact serves_of_le required e.level (by omega) own

theorem serves_atom (h : ∀ rest, Derives .primary (ts ++ rest) e rest) : Serves .primary e ts :=
  fun rest _ _ _ others => .factor (h rest) others

theorem serves_var (name : String) : Serves .primary (.var name) [.identifier name] := by
  intro rest positions after last others
  have ends : Ends (fun k => k = .symbol .assign ∨ k = .symbol .lparen) rest := by
    refine last.mono fun k more => ?_
    rcases more with assign | paren
    next => exact .inr (.inl assign)
    next => exact .inl paren
  exact .factor (.var ends) others

theorem serves_unary (op : UnaryOperator) (h : Serves .unary e ts) :
    Serves .unary (.unary op e) (op.sign :: ts) := by
  intro rest last
  -- a subscript behind would belong to the operand
  have ends := ends_bracket .unary (by decide) rest last
  exact .factor (.unary op.sign_mem (h rest last)) (.noSubscript ends)

theorem serves_binary (op : BinaryOperator) (left right : Expr) (ls rs : List TokenKind)
    (hl : Serves (.tier (.ofOperator op)) left ls)
    (hr : Serves (Level.tier (.ofOperator op)).next right rs) :
    Serves (.tier (.ofOperator op)) (.binary op left right) (ls ++ op.sign :: rs) := by
  intro rest steps after last others
  have sign : (op.sign, op) ∈ (Tier.ofOperator op).signs := by simp [Tier.mem_signs_iff]
  -- the right operand becomes the first of the steps that the left one carries
  have operations : Derives (.operations (.ofOperator op)) (op.sign :: (rs ++ rest))
      ((op, right) :: steps) after := .operation sign (hr.operand _ last) others
  simpa [grouped] using hl _ _ _ (by simp [not_continues_sign]) operations

theorem serves_index (container position : Expr) (cs ps : List TokenKind)
    (hc : Serves .primary container cs) (hp : Serves .assignment position ps) :
    Serves .primary (.index container position)
      (cs ++ .symbol .lbracket :: (ps ++ [.symbol .rbracket])) := by
  intro rest positions after last others
  have inner : Derives (.chain .logical) (ps ++ .symbol .rbracket :: rest) position
      (.symbol .rbracket :: rest) := hp _ (ends_closer _ .rbracket rest (by decide))
  simpa using hc _ _ _ (by simp [not_continues_bracket]) (.subscript inner others)

theorem logical_of_primary (h : Derives .primary ts e rest) (bracket : Ends (· = .symbol .lbracket) rest)
    (signs : ∀ t : Tier, Ends (fun k => ∃ op, (k, op) ∈ t.signs) rest) :
    Derives (.chain .logical) ts e rest := by
  have factor : Derives .factor ts e rest := .factor h (.noSubscript bracket)
  have product : Derives (.chain .multiplicative) ts e rest :=
    .chain (.multiplicativeOperand factor) (.noOperation (signs _))
  have sum : Derives (.chain .additive) ts e rest :=
    .chain (.additiveOperand product) (.noOperation (signs _))
  have comparison : Derives (.chain .comparison) ts e rest :=
    .chain (.comparisonOperand sum) (.noOperation (signs _))
  exact .chain (.logicalOperand comparison) (.noOperation (signs _))

theorem serves_assign (target : String) (h : Serves .assignment e ts) :
    Serves .assignment (.assign target e) (.identifier target :: .symbol .assign :: ts) := by
  intro rest last
  have bracket := ends_bracket .assignment (by decide) rest last
  refine logical_of_primary (.namedAssign (h rest last)) bracket fun t => ?_
  refine ends_operations t .assignment ?_ rest last
  cases t <;> decide

theorem ends_comma {α : Type} (later : List α) (spelled : List α → List TokenKind) (close : Symbol)
    (rest : List TokenKind) (empty : spelled [] = [])
    (closes : close ∈ closers) :
    Ends (Continues .assignment) (comma later ++ (spelled later ++ .symbol close :: rest)) := by
  cases later with
  | nil =>
    rw [empty]
    exact ends_closer .assignment close rest closes
  | cons => exact ends_closer .assignment .comma _ (by decide)

mutual

theorem serves_bare : (e : Expr) → Serves e.level e e.bare
  | .int n => serves_atom fun _ => .int
  | .str s => serves_atom fun _ => .str
  | .bool true => serves_atom fun _ => .trueWord
  | .bool false => serves_atom fun _ => .falseWord
  | .dict entries => serves_atom fun rest => by
    simpa [Expr.bare] using Derives.dict (derives_entries entries rest)
  | .binary op left right =>
    serves_binary op left right _ _ (serves_tokens (serves_bare left) _)
      (serves_tokens (serves_bare right) _)
  | .unary op operand => serves_unary op (serves_tokens (serves_bare operand) _)
  | .var name => serves_var name
  | .assign target value => serves_assign target (serves_tokens (serves_bare value) _)
  | .call function args => serves_atom fun rest => by
    simpa [Expr.bare] using Derives.call (derives_arguments args rest)
  | .index container position =>
    serves_index container position _ _ (serves_tokens (serves_bare container) _)
      (serves_tokens (serves_bare position) _)

theorem derives_arguments : (args : List Expr) → (rest : List TokenKind) →
    Derives .arguments (Expr.bareArguments args ++ .symbol .rparen :: rest) args
      (.symbol .rparen :: rest)
  | [], rest => .noArgument (by simp [Expr.bareArguments, startsExpression])
  | arg :: later, rest => by
    have first := serves_tokens (serves_bare arg) .assignment
    have one := first _ (ends_comma later Expr.bareArguments .rparen rest rfl (by decide))
    simpa [Expr.bareArguments, Expr.tokens] using
      Derives.arguments one (derives_moreArguments later rest)

theorem derives_moreArguments : (args : List Expr) → (rest : List TokenKind) →
    Derives .moreArguments (comma args ++ (Expr.bareArguments args ++ .symbol .rparen :: rest)) args
      (.symbol .rparen :: rest)
  | [], rest => .noMore (by simp [comma, Expr.bareArguments])
  | arg :: later, rest => by
    have first := serves_tokens (serves_bare arg) .assignment
    have one := first _ (ends_comma later Expr.bareArguments .rparen rest rfl (by decide))
    simpa [Expr.bareArguments, Expr.tokens, comma] using
      Derives.more one (derives_moreArguments later rest)

theorem derives_entries : (entries : List (Expr × Expr)) → (rest : List TokenKind) →
    Derives .entries (Expr.bareEntries entries ++ .symbol .rbrace :: rest) entries
      (.symbol .rbrace :: rest)
  | [], rest => .noEntry (by simp [Expr.bareEntries, startsExpression])
  | (key, value) :: later, rest => by
    have left := serves_tokens (serves_bare key) (.tier .additive)
    have right := serves_tokens (serves_bare value) (.tier .additive)
    have one : ∀ behind, Derives (.chain .additive)
        (key.tokens (.tier .additive) ++ .symbol .colon :: behind) key (.symbol .colon :: behind) :=
      fun behind => left.chain .assignment (by decide) (ends_closer _ .colon behind (by decide))
    have two := right.chain .assignment (by decide)
      (ends_comma later Expr.bareEntries .rbrace rest rfl (by decide))
    have others := derives_entries later rest
    -- only an entry with another one behind it has a comma
    cases later with
    | nil =>
      simpa [Expr.bareEntries, Expr.tokens, comma] using
        Derives.lastEntry (one _) two (by simp [comma, Expr.bareEntries])
    | cons entry later =>
      simpa [Expr.bareEntries, Expr.tokens, comma] using Derives.entry (one _) two others

end

def ContinuesStatement (k : TokenKind) : Prop :=
  k = .symbol .lbracket ∨ k = .symbol .assign ∨ (∃ op : BinaryOperator, k = op.sign) ∨
    k = .keyword .elifWord ∨ k = .keyword .elseWord

theorem not_continuesStatement (k : TokenKind)
    (h : k ∈ [TokenKind.symbol .lparen, .symbol .rbrace, .keyword .ifWord]) :
    ¬ ContinuesStatement k := by
  rintro (rfl | rfl | ⟨op, rfl⟩ | rfl | rfl)
  next => simp at h
  next => simp at h
  next => cases op <;> simp [BinaryOperator.sign] at h
  next => simp at h
  next => simp at h

theorem derives_closed (e : Expr) (s : Symbol) (rest : List TokenKind) (h : s ∈ closers) :
    Derives (.chain .logical) (e.tokens .assignment ++ .symbol s :: rest) e (.symbol s :: rest) :=
  serves_tokens (serves_bare e) .assignment _ (ends_closer _ s rest h)

theorem derives_expression (e : Expr) (last : Ends ContinuesStatement rest) :
    Derives .statement ((Stmt.expr e).tokens ++ rest) (Stmt.expr e) rest := by
  have inner := derives_closed e .rparen rest (by decide)
  have whole : Derives (.chain .logical)
      (.symbol .lparen :: (e.tokens .assignment ++ .symbol .rparen :: rest)) e rest := by
    refine logical_of_primary (.parenthesized inner) (last.mono fun k bracket => .inl bracket) ?_
    intro t
    refine last.mono fun k sign => ?_
    obtain ⟨op, sign⟩ := sign
    rw [Tier.mem_signs_iff] at sign
    exact .inr (.inr (.inl ⟨op, sign.1⟩))
  have assign : Ends (· = .symbol .assign) rest := last.mono fun k assign => .inr (.inl assign)
  simpa [Stmt.tokens] using Derives.expression (.plain whole assign)

theorem ends_allTokens (all : List Stmt) (last : Ends ContinuesStatement rest) :
    Ends ContinuesStatement (Stmt.allTokens all ++ rest) := by
  cases all with
  | nil => simpa [Stmt.allTokens] using last
  | cons s later => cases s <;> simp [Stmt.allTokens, Stmt.tokens, not_continuesStatement]

theorem derives_block (body : List Stmt) (rest : List TokenKind)
    (h : ∀ behind, Ends startsStatement behind → Ends ContinuesStatement behind →
      Derives .statements (Stmt.allTokens body ++ behind) body behind) :
    Derives .block (.symbol .lbrace :: (Stmt.allTokens body ++ .symbol .rbrace :: rest)) body rest := by
  refine .block (h _ ?_ ?_)
  next => simp [startsStatement, startsExpression]
  next => simp [not_continuesStatement]

mutual

theorem derives_statement : (s : Stmt) → (rest : List TokenKind) → Ends ContinuesStatement rest →
    Derives .statement (s.tokens ++ rest) s rest
  | .expr e, rest, last => derives_expression e last
  | .conditional condition body elifs otherwise, rest, last => by
    -- the next statement may be a conditional too, but it opens no branch of this one
    have noElse : Ends (· = .keyword .elseWord) rest :=
      last.mono fun k word => .inr (.inr (.inr (.inr word)))
    have noElif : Ends (· = .keyword .elifWord) (Stmt.otherwiseTokens otherwise ++ rest) := by
      cases otherwise with
      | none => exact last.mono fun k word => .inr (.inr (.inr (.inl word)))
      | some => simp [Stmt.otherwiseTokens]
    have branches := derives_elifs elifs _ noElif
    have block := derives_block body (Stmt.elifTokens elifs ++ (Stmt.otherwiseTokens otherwise ++ rest))
      (derives_statements body)
    simpa [Stmt.tokens] using Derives.conditional (derives_closed condition .colon _ (by decide)) block
      branches (derives_otherwise otherwise rest noElse)

theorem derives_statements : (all : List Stmt) → (rest : List TokenKind) →
    Ends startsStatement rest → Ends ContinuesStatement rest →
    Derives .statements (Stmt.allTokens all ++ rest) all rest
  | [], rest, stop, _ => .noStatement stop
  | s :: later, rest, stop, last => by
    have one := derives_statement s _ (ends_allTokens later last)
    simpa [Stmt.allTokens] using Derives.statements one (derives_statements later rest stop last)

theorem derives_elifs : (elifs : List (Expr × List Stmt)) → (rest : List TokenKind) →
    Ends (· = .keyword .elifWord) rest → Derives .elifs (Stmt.elifTokens elifs ++ rest) elifs rest
  | [], rest, last => .noElif last
  | (condition, body) :: later, rest, last => by
    have block := derives_block body (Stmt.elifTokens later ++ rest) (derives_statements body)
    simpa [Stmt.elifTokens] using
      Derives.elif (derives_closed condition .colon _ (by decide)) block (derives_elifs later rest last)

theorem derives_otherwise : (otherwise : Option (List Stmt)) → (rest : List TokenKind) →
    Ends (· = .keyword .elseWord) rest →
    Derives .otherwise (Stmt.otherwiseTokens otherwise ++ rest) otherwise rest
  | none, rest, last => .noElse last
  | some body, rest, _ => by
    simpa [Stmt.otherwiseTokens] using
      Derives.otherwise (derives_block body rest (derives_statements body))

end

end Grammar

theorem Program.derives_tokens (p : Program) : Grammar.DerivesProgram p.tokens p := by
  have whole := Grammar.derives_statements p [] (by simp) (by simp)
  rwa [List.append_nil] at whole

end TableScript
