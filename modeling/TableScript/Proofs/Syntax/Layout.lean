import TableScript.Proofs.Syntax.Completeness
import TableScript.Proofs.Syntax.Streaming
import TableScript.Proofs.Token.Layout

set_option autoImplicit false

namespace TableScript

def SyntaxError.unplaced : SyntaxError → SyntaxError
  | .lexical e => .lexical ⟨e.fault, 0, 0⟩
  | .unexpectedToken expected found _ _ => .unexpectedToken expected found 0 0
  | .invalidAssignmentTarget _ _ => .invalidAssignmentTarget 0 0

def content (ts : List Token) : List TokenKind := (ts.map (·.kind)).takeWhile (· ≠ .eof)

@[simp] theorem content_end (t : Token) (ts : List Token) (last : t.kind = .eof) :
    content (t :: ts) = [] := by
  simp [content, last]

@[simp] theorem content_cons (t : Token) (ts : List Token) (more : t.kind ≠ .eof) :
    content (t :: ts) = t.kind :: content ts := by
  simp [content, more]

theorem content_of_noEnd (ts : List Token) (noEnd : ∀ t ∈ ts, t.kind ≠ .eof) :
    content ts = ts.map (·.kind) := by
  rw [content, List.takeWhile_eq_self_iff]
  simpa using noEnd

namespace Parser

open Input Likeness

def Left (s : Input) (ks : List TokenKind) : Prop :=
  ∃ later : List Token, s.later = later.map .ok ∧ content (s.current :: later) = ks

theorem Left.kind {s : Input} {ks : List TokenKind} (h : Left s ks) : s.kind = ks.headD .eof := by
  obtain ⟨later, -, rfl⟩ := h
  by_cases last : s.current.kind = .eof <;> simp [last, Input.kind]

theorem Left.advance {s : Input} {ks : List TokenKind} (h : Left s ks) :
    ∃ after, s.advance = .ok after ∧ (s.kind ≠ .eof → Left after ks.tail) := by
  obtain ⟨later, items, rfl⟩ := h
  cases later with
  | nil =>
    refine ⟨⟨⟨.eof, s.current.span⟩, []⟩, by simp [Input.advance, items], fun more => ⟨[], rfl, ?_⟩⟩
    rw [content_cons _ _ more]
    rfl
  | cons t later =>
    refine ⟨⟨t, later.map .ok⟩, by simp [Input.advance, items], fun more => ⟨later, rfl, ?_⟩⟩
    rw [content_cons _ _ more]
    rfl

def sameContent : Likeness where
  inputs s t := ∃ ks, Left s ks ∧ Left t ks
  errors e e' := e.unplaced = e'.unplaced
  aside _ := False

theorem lawful_sameContent : sameContent.Lawful where
  kind s t near := by
    obtain ⟨ks, left, right⟩ := near
    exact left.kind.trans right.kind.symm
  advance s t near more := by
    obtain ⟨ks, left, right⟩ := near
    have more' : t.kind ≠ .eof := by rwa [right.kind, ← left.kind]
    obtain ⟨after, moved, there⟩ := left.advance
    obtain ⟨after', moved', there'⟩ := right.advance
    rw [moved, moved']
    exact .read _ _ ⟨ks.tail, there more, there' more'⟩
  peek s t near := by
    obtain ⟨ks, left, right⟩ := near
    obtain ⟨after, moved, -⟩ := left.advance
    obtain ⟨after', moved', -⟩ := right.advance
    rw [moved, moved']
    exact .read _ _ trivial
  unexpected s t expected near := by
    obtain ⟨ks, left, right⟩ := near
    simp only [sameContent, SyntaxError.unplaced, left.kind, right.kind]
  target s t near := rfl

end Parser

namespace Program

open TableScript.Parser Grammar

theorem start_left (ts : List Token) :
    ∃ s, Input.start (ts.map .ok) = .ok s ∧ Left s (content ts) := by
  cases ts with
  | nil => exact ⟨_, rfl, [], rfl, rfl⟩
  | cons t later => exact ⟨_, rfl, later, rfl, rfl⟩

-- Tokens of the same kinds are read alike, whether or not a token for the end follows them.
theorem ofTokens_of_content (ts us : List Token) (same : content ts = content us) :
    (∀ p, ofTokens ts = .ok p → ofTokens us = .ok p) ∧
      ∀ e, ofTokens ts = .error e → ∃ e', ofTokens us = .error e' ∧ e.unplaced = e'.unplaced := by
  obtain ⟨s, start, left⟩ := start_left ts
  obtain ⟨t, start', right⟩ := start_left us
  have read : ofTokens ts = (plain (statements false s)).map (·.1) := by
    rw [ofTokens, ofItems_eq, start]
    rfl
  have read' : ofTokens us = (plain (statements false t)).map (·.1) := by
    rw [ofTokens, ofItems_eq, start']
    rfl
  have alike := (alike_statements lawful_sameContent false ⟨content ts, left, same ▸ right⟩).values
  rw [← read, ← read'] at alike
  constructor
  next =>
    intro p h
    rw [h] at alike
    obtain ⟨q, second, rfl⟩ := alike.of_ok
    exact second
  next =>
    intro e h
    rw [h] at alike
    obtain aside | second := alike.of_error
    next => exact aside.elim
    next => exact second

theorem ofTokens_eq_ok_iff_content (ts : List Token) (p : Program) :
    ofTokens ts = .ok p ↔ DerivesProgram (content ts) p := by
  let front := ts.takeWhile (·.kind ≠ .eof)
  have noEnd : ∀ t ∈ front, t.kind ≠ .eof := fun t here => by simpa using List.mem_takeWhile_imp here
  have kinds : front.map (·.kind) = content ts := by
    simp only [front, content, List.takeWhile_map]
    rfl
  have same : content front = content ts := by rw [content_of_noEnd front noEnd, kinds]
  rw [← kinds]
  constructor
  next =>
    intro h
    exact derives_of_ofTokens front noEnd p ((ofTokens_of_content ts front same.symm).1 p h)
  next =>
    intro h
    exact (ofTokens_of_content front ts same).1 p (ofTokens_of_derives front noEnd p h)

-- A text is read as a program exactly if what it spells derives that program.
theorem parse_eq_ok_iff (source : String) (p : Program) :
    parse source = .ok p ↔ ∃ ks, Spelled source.toList ks ∧ DerivesProgram ks p := by
  have kept (ks : List TokenKind) (ts : List Token) (h : Spelled source.toList ks)
      (kinds : ts.map (·.kind) = ks ++ [.eof]) : content ts = ks := by
    have noEnd : ∀ k ∈ ks, k ≠ .eof := fun k here last => h.eof_not_mem (last ▸ here)
    rw [content, kinds, List.takeWhile_append_of_pos (by simpa using noEnd)]
    simp
  constructor
  next =>
    intro h
    cases found : tokenize source with
    | error e =>
      -- a text with a fault is never read as a program
      obtain ⟨front, noEnd, items⟩ := Lexer.exists_front_of_error _ e found
      rw [parse, items] at h
      rcases ofItems_before_fault front e noEnd with failed | ⟨x, failed, -⟩
      next => cases failed.symm.trans h
      next => cases failed.symm.trans h
    | ok ts =>
      have items := (Lexer.collect_eq_ok_iff _ ts).mp found
      obtain ⟨ks, spelled, kinds⟩ := Lexer.spelled_of_results _ ts items
      have read : ofTokens ts = .ok p := (congrArg ofItems items).symm.trans h
      rw [ofTokens_eq_ok_iff_content, kept ks ts spelled kinds] at read
      exact ⟨ks, spelled, read⟩
  next =>
    rintro ⟨ks, spelled, derives⟩
    obtain ⟨ts, items, kinds⟩ := Lexer.exists_results (Lexer.ofSource source) ks spelled
    rw [← kept ks ts spelled kinds, ← ofTokens_eq_ok_iff_content] at derives
    exact (congrArg ofItems items).trans derives

end Program

end TableScript
