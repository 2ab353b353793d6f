import TableScript.Syntax.Basic
import TableScript.Syntax.Input

set_option autoImplicit false

namespace TableScript

def Tier.operator? : Tier → TokenKind → Option BinaryOperator
  | .logical, .keyword .andWord => some .and
  | .logical, .keyword .orWord => some .or
  | .comparison, .symbol .equalEqual => some .equal
  | .comparison, .symbol .notEqual => some .notEqual
  | .comparison, .symbol .less => some .less
  | .comparison, .symbol .greater => some .greater
  | .comparison, .symbol .lessEqual => some .lessEqual
  | .comparison, .symbol .greaterEqual => some .greaterEqual
  | .additive, .symbol .plus => some .add
  | .additive, .symbol .minus => some .sub
  | .multiplicative, .symbol .star => some .mul
  | .multiplicative, .symbol .slash => some .div
  | _, _ => none

@[simp] theorem Tier.operator?_eof (t : Tier) : t.operator? .eof = none := by
  cases t <;> rfl

@[simp] def Tier.depth : Tier → Nat
  | .logical => 3
  | .comparison => 2
  | .additive => 1
  | .multiplicative => 0

def UnaryOperator.ofToken? : TokenKind → Option UnaryOperator
  | .keyword .notWord => some .not
  | .symbol .plus => some .plus
  | .symbol .minus => some .minus
  | _ => none

def endsStatements (inBlock : Bool) (kind : TokenKind) : Bool :=
  kind = .eof || (inBlock && kind = .symbol .rbrace)

namespace Parser

abbrev Result (α : Type) (bound : Nat) := Except SyntaxError (Read α bound)

theorem ne_eof_of_operator? {t : Tier} {s : Input} {op : BinaryOperator}
    (h : t.operator? s.kind = some op) : s.kind ≠ .eof := by
  intro last
  simp [last] at h

theorem ne_eof_of_unary {s : Input} {op : UnaryOperator}
    (h : UnaryOperator.ofToken? s.kind = some op) : s.kind ≠ .eof := by
  intro last
  simp [last, UnaryOperator.ofToken?] at h

theorem ne_eof {s : Input} {kind : TokenKind} (h : s.kind = kind) (other : kind ≠ .eof) :
    s.kind ≠ .eof := by
  rw [h]
  exact other

mutual

def chain (t : Tier) (s : Input) : Result Expr s.size := do
  let first ← operand t s
  have := first.shorter
  let all ← chainRest t first.value first.rest
  return all.widen (by omega)
termination_by (s.size, 2 * t.depth + 4)

def chainRest (t : Tier) (left : Expr) (s : Input) : Result Expr (s.size + 1) :=
  match h : t.operator? s.kind with
  | none => .ok ⟨left, s, by omega⟩
  | some op => do
    let sign ← s.next (ne_eof_of_operator? h)
    have := sign.shorter
    let right ← operand t sign.rest
    have := right.shorter
    let all ← chainRest t (.binary op left right.value) right.rest
    return all.widen (by omega)
termination_by (s.size, 0)

def operand (t : Tier) (s : Input) : Result Expr s.size :=
  match t with
  | .logical => chain .comparison s
  | .comparison => chain .additive s
  | .additive => chain .multiplicative s
  | .multiplicative => factor s
termination_by (s.size, 2 * t.depth + 3)

def factor (s : Input) : Result Expr s.size := do
  let first ← primary s
  have := first.shorter
  let all ← subscripts first.value first.rest
  return all.widen (by omega)
termination_by (s.size, 2)

def subscripts (container : Expr) (s : Input) : Result Expr (s.size + 1) :=
  if h : s.kind = .symbol .lbracket then do
    let bracket ← s.next (ne_eof h (by simp))
    have := bracket.shorter
    let position ← chain .logical bracket.rest
    have := position.shorter
    let close ← position.rest.expectSymbol .rbracket
    have := close.shorter
    let all ← subscripts (.index container position.value) close.rest
    return all.widen (by omega)
  else .ok ⟨container, s, by omega⟩
termination_by (s.size, 0)

/-- A token that starts no expression is refused only after the token behind it has been read. -/
def primary (s : Input) : Result Expr s.size :=
  match h : UnaryOperator.ofToken? s.kind with
  | some op => do
    let sign ← s.next (ne_eof_of_unary h)
    have := sign.shorter
    let value ← factor sign.rest
    return (value.map (.unary op)).widen (by omega)
  | none =>
    match h : s.kind with
    | .integer n => do
      let token ← s.next (ne_eof h (by simp))
      return token.map fun _ => .int n
    | .keyword .trueWord => do
      let token ← s.next (ne_eof h (by simp))
      return token.map fun _ => .bool true
    | .keyword .falseWord => do
      let token ← s.next (ne_eof h (by simp))
      return token.map fun _ => .bool false
    | .string text => do
      let token ← s.next (ne_eof h (by simp))
      return token.map fun _ => .str text
    | .symbol .lbrace => do
      let brace ← s.next (ne_eof h (by simp))
      have := brace.shorter
      let entries ← entries brace.rest
      have := entries.shorter
      let close ← entries.rest.expectSymbol .rbrace
      return (close.map fun _ => .dict entries.value).widen (by omega)
    | .symbol .lparen => do
      let paren ← s.next (ne_eof h (by simp))
      have := paren.shorter
      let inner ← chain .logical paren.rest
      have := inner.shorter
      let close ← inner.rest.expectSymbol .rparen
      return (close.map fun _ => inner.value).widen (by omega)
    | .identifier name => do
      let token ← s.next (ne_eof h (by simp))
      have := token.shorter
      let named ← named name token.rest
      return named.widen (by omega)
    | _ => do
      let _ ← s.advance
      s.unexpected .expression
termination_by (s.size, 1)

def named (name : String) (s : Input) : Result Expr (s.size + 1) :=
  if h : s.kind = .symbol .assign then do
    let sign ← s.next (ne_eof h (by simp))
    have := sign.shorter
    let value ← chain .logical sign.rest
    return (value.map (.assign name)).widen (by omega)
  else if h : s.kind = .symbol .lparen then do
    let paren ← s.next (ne_eof h (by simp))
    have := paren.shorter
    let args ← arguments paren.rest
    return (args.map (.call name)).widen (by omega)
  else .ok ⟨.var name, s, by omega⟩
termination_by (s.size, 0)

def arguments (s : Input) : Result (List Expr) s.size :=
  if s.kind = .symbol .rparen then do
    let close ← s.expectSymbol .rparen
    return close.map fun _ => []
  else do
    let first ← chain .logical s
    have := first.shorter
    let more ← moreArguments first.rest
    have := more.shorter
    let close ← more.rest.expectSymbol .rparen
    return (close.map fun _ => first.value :: more.value).widen (by omega)
termination_by (s.size, 20)

def moreArguments (s : Input) : Result (List Expr) (s.size + 1) :=
  if h : s.kind = .symbol .comma then do
    let comma ← s.next (ne_eof h (by simp))
    have := comma.shorter
    let arg ← chain .logical comma.rest
    have := arg.shorter
    let more ← moreArguments arg.rest
    return (more.map (arg.value :: ·)).widen (by omega)
  else .ok ⟨[], s, by omega⟩
termination_by (s.size, 0)

def entries (s : Input) : Result (List (Expr × Expr)) (s.size + 1) :=
  if s.kind = .symbol .rbrace then .ok ⟨[], s, by omega⟩
  else do
    let key ← chain .additive s
    have := key.shorter
    let colon ← key.rest.expectSymbol .colon
    have := colon.shorter
    let value ← chain .additive colon.rest
    have := value.shorter
    if h : value.rest.kind = .symbol .comma then do
      let comma ← value.rest.next (ne_eof h (by simp))
      have := comma.shorter
      let more ← entries comma.rest
      return (more.map ((key.value, value.value) :: ·)).widen (by omega)
    else return ⟨[(key.value, value.value)], value.rest, by omega⟩
termination_by (s.size, 20)

end

def assignment (s : Input) : Result Expr s.size := do
  let left ← chain .logical s
  have := left.shorter
  if h : left.rest.kind = .symbol .assign then
    match left.value with
    | .var target => do
      let sign ← left.rest.next (ne_eof h (by simp))
      have := sign.shorter
      let value ← assignment sign.rest
      return (value.map (.assign target)).widen (by omega)
    | _ =>
      let span := left.rest.current.span
      .error (.invalidAssignmentTarget span.line span.column)
  else return left
termination_by s.size

mutual

def statement (s : Input) : Result Stmt s.size :=
  if h : s.kind = .keyword .ifWord then do
    let word ← s.next (ne_eof h (by simp))
    have := word.shorter
    let condition ← chain .logical word.rest
    have := condition.shorter
    let body ← body condition.rest
    have := body.shorter
    let elifs ← elifs body.rest
    have := elifs.shorter
    let otherwise ← otherwise elifs.rest
    return (otherwise.map (.conditional condition.value body.value elifs.value)).widen (by omega)
  else do
    let e ← assignment s
    return e.map .expr
termination_by (s.size, 0)

def body (s : Input) : Result (List Stmt) s.size := do
  let colon ← s.expectSymbol .colon
  have := colon.shorter
  let brace ← colon.rest.expectSymbol .lbrace
  have := brace.shorter
  let inner ← statements true brace.rest
  have := inner.shorter
  let close ← inner.rest.expectSymbol .rbrace
  return (close.map fun _ => inner.value).widen (by omega)
termination_by (s.size, 0)

def elifs (s : Input) : Result (List (Expr × List Stmt)) (s.size + 1) :=
  if h : s.kind = .keyword .elifWord then do
    let word ← s.next (ne_eof h (by simp))
    have := word.shorter
    let condition ← chain .logical word.rest
    have := condition.shorter
    let body ← body condition.rest
    have := body.shorter
    let more ← elifs body.rest
    return (more.map ((condition.value, body.value) :: ·)).widen (by omega)
  else .ok ⟨[], s, by omega⟩
termination_by (s.size, 0)

def otherwise (s : Input) : Result (Option (List Stmt)) (s.size + 1) :=
  if h : s.kind = .keyword .elseWord then do
    let word ← s.next (ne_eof h (by simp))
    have := word.shorter
    let body ← body word.rest
    return (body.map some).widen (by omega)
  else .ok ⟨none, s, by omega⟩
termination_by (s.size, 0)

def statements (inBlock : Bool) (s : Input) : Result (List Stmt) (s.size + 1) :=
  if endsStatements inBlock s.kind then .ok ⟨[], s, by omega⟩
  else do
    let first ← statement s
    have := first.shorter
    let more ← statements inBlock first.rest
    return (more.map (first.value :: ·)).widen (by omega)
termination_by (s.size, 1)

end

end Parser

namespace Program

def ofItems (items : List (Except LexError Token)) : Except SyntaxError Program := do
  let s ← Input.start items
  let all ← Parser.statements false s
  return all.value

def ofTokens (ts : List Token) : Except SyntaxError Program := ofItems (ts.map .ok)

def parse (source : String) : Except SyntaxError Program := ofItems (Lexer.ofSource source).results

end Program

end TableScript
