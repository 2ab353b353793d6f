import TableScript.Token.Scan

set_option autoImplicit false

namespace TableScript

structure Position where
  offset : Nat
  line : Nat
  column : Nat
deriving DecidableEq, Repr, Inhabited

namespace Position

def start : Position := ⟨0, 1, 0⟩

def step (p : Position) (c : Char) : Position :=
  if c = '\n' then ⟨p.offset + c.utf8Size, p.line + 1, 0⟩
  else ⟨p.offset + c.utf8Size, p.line, p.column + 1⟩

def after (p : Position) (cs : List Char) : Position := cs.foldl step p

@[simp] theorem after_nil (p : Position) : p.after [] = p := rfl

@[simp] theorem after_append (p : Position) (front back : List Char) :
    p.after (front ++ back) = (p.after front).after back := by
  simp [after]

end Position

structure LexError where
  fault : LexFault
  line : Nat
  column : Nat
deriving DecidableEq, Repr

def LexError.message (e : LexError) : String :=
  let place := s!" at line {e.line}, column {e.column}"
  match e.fault with
  | .unexpectedCharacter c => "Unexpected character '" ++ String.singleton c ++ "'" ++ place
  | .expectedEqualAfterBang => "Expected '=' after '!'" ++ place
  | .unterminatedString => "Unterminated string literal" ++ place
  | .unterminatedEscape => "Unterminated escape sequence" ++ place

structure Lexer where
  rest : List Char
  pos : Position
deriving DecidableEq, Repr

namespace Lexer

def ofSource (source : String) : Lexer := ⟨source.toList, .start⟩

def skipBlank (l : Lexer) : Lexer :=
  ⟨l.rest.dropWhile Text.isBlank, l.pos.after (l.rest.takeWhile Text.isBlank)⟩

theorem skipBlank_rest_length_le (l : Lexer) : l.skipBlank.rest.length ≤ l.rest.length := by
  have whole := congrArg List.length (List.takeWhile_append_dropWhile (p := Text.isBlank) (l := l.rest))
  rw [List.length_append] at whole
  simp only [skipBlank]
  omega

def span (first last : Position) : Span := ⟨first.offset, last.offset, first.line, first.column⟩

def endToken (p : Position) : Token := ⟨.eof, span p p⟩

def finish (p : Position) (s : Scan) : Except LexError Token × Lexer :=
  let stop := p.after s.taken
  match s.outcome with
  | .ok kind => (.ok ⟨kind, span p stop⟩, ⟨s.rest, stop⟩)
  | .error fault => (.error ⟨fault, p.line, p.column⟩, ⟨s.rest, stop⟩)

def next (l : Lexer) : Except LexError Token × Lexer :=
  let here := l.skipBlank
  match here.rest with
  | [] => (.ok (endToken here.pos), here)
  | c :: cs => finish here.pos (Scan.read c cs)

theorem next_rest_length_lt (l : Lexer) (t : Token) (after : Lexer) (h : l.next = (.ok t, after))
    (more : t.kind ≠ .eof) : after.rest.length < l.rest.length := by
  have skipped := l.skipBlank_rest_length_le
  unfold next at h
  simp only at h
  split at h
  next =>
    simp only [Prod.mk.injEq, Except.ok.injEq] at h
    exact absurd (h.1 ▸ rfl) more
  next c cs here =>
    rw [here] at skipped
    unfold finish at h
    split at h
    next kind ok =>
      have shorter := Scan.rest_length_lt c cs kind ok
      simp only [Prod.mk.injEq] at h
      rw [← h.2]
      simp only
      omega
    next => simp at h

def results (l : Lexer) : List (Except LexError Token) :=
  match _h : l.next with
  | (.error e, _) => [.error e]
  | (.ok t, after) => if _more : t.kind = .eof then [.ok t] else .ok t :: results after
termination_by l.rest.length
decreasing_by exact next_rest_length_lt l t after _h _more

def collect : List (Except LexError Token) → Except LexError (List Token)
  | [] => .ok []
  | .error e :: _ => .error e
  | .ok t :: rest => (collect rest).map (t :: ·)

@[simp] theorem collect_map_ok (ts : List Token) : collect (ts.map .ok) = .ok ts := by
  induction ts with
  | nil => rfl
  | cons t ts ih => simp [collect, ih, Except.map]

end Lexer

def tokenize (source : String) : Except LexError (List Token) :=
  Lexer.collect (Lexer.ofSource source).results

structure TokenStream where
  lexer : Lexer
  finished : Bool
deriving DecidableEq, Repr

namespace TokenStream

def ofSource (source : String) : TokenStream := ⟨.ofSource source, false⟩

def isLast : Except LexError Token → Bool
  | .ok t => t.kind == .eof
  | .error _ => true

def next (s : TokenStream) : Option (Except LexError Token) × TokenStream :=
  if s.finished then (none, s)
  else
    let (result, lexer) := s.lexer.next
    (some result, ⟨lexer, isLast result⟩)

end TokenStream

end TableScript
