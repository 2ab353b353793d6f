import TableScript.Token.Lexer

set_option autoImplicit false

namespace TableScript

inductive Expected where
  | expression
  | token (kind : TokenKind)
deriving DecidableEq, Repr

inductive SyntaxError where
  | lexical (e : LexError)
  | unexpectedToken (expected : Expected) (found : TokenKind) (line column : Nat)
  | invalidAssignmentTarget (line column : Nat)
deriving DecidableEq, Repr

def Expected.description : Expected → String
  | .expression => "expression"
  | .token kind => kind.description

def SyntaxError.message : SyntaxError → String
  | .lexical e => e.message
  | .unexpectedToken expected found line column =>
    "Expected " ++ expected.description ++ ", got " ++ found.description ++
      s!" at line {line}, column {column}"
  | .invalidAssignmentTarget line column =>
    s!"Invalid assignment target at line {line}, column {column}"

structure Input where
  current : Token
  later : List (Except LexError Token)

namespace Input

def kind (s : Input) : TokenKind := s.current.kind

def size (s : Input) : Nat := s.later.length + (if s.kind = .eof then 0 else 1)

def start : List (Except LexError Token) → Except SyntaxError Input
  | [] => .ok ⟨⟨.eof, ⟨0, 0, 0, 0⟩⟩, []⟩
  | .ok t :: later => .ok ⟨t, later⟩
  | .error e :: _ => .error (.lexical e)

def advance (s : Input) : Except SyntaxError Input :=
  match s.later with
  | [] => .ok ⟨⟨.eof, s.current.span⟩, []⟩
  | .ok t :: later => .ok ⟨t, later⟩
  | .error e :: _ => .error (.lexical e)

theorem advance_size_lt (s after : Input) (h : s.advance = .ok after) (more : s.kind ≠ .eof) :
    after.size < s.size := by
  unfold advance at h
  split at h
  next empty =>
    cases h
    simp [size, empty, kind] at *
    simp [more]
  next t later items =>
    cases h
    simp only [size, items, List.length_cons, more, if_false]
    split <;> omega
  next => contradiction

def unexpected {α : Type} (s : Input) (expected : Expected) : Except SyntaxError α :=
  .error (.unexpectedToken expected s.kind s.current.span.line s.current.span.column)

end Input

structure Read (α : Type) (bound : Nat) where
  value : α
  rest : Input
  shorter : rest.size < bound

namespace Read

variable {α β : Type} {m n : Nat}

def widen (r : Read α m) (h : m ≤ n) : Read α n := ⟨r.value, r.rest, Nat.lt_of_lt_of_le r.shorter h⟩

def map (f : α → β) (r : Read α n) : Read β n := ⟨f r.value, r.rest, r.shorter⟩

end Read

namespace Input

def next (s : Input) (more : s.kind ≠ .eof) : Except SyntaxError (Read Unit s.size) :=
  match h : s.advance with
  | .ok after => .ok ⟨(), after, advance_size_lt s after h more⟩
  | .error e => .error e

def expectSymbol (s : Input) (symbol : Symbol) : Except SyntaxError (Read Unit s.size) :=
  if h : s.kind = .symbol symbol then s.next (by rw [h]; exact TokenKind.noConfusion)
  else s.unexpected (.token (.symbol symbol))

end Input

end TableScript
