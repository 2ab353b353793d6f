import TableScript.Proofs.Syntax.CorrectPrefix
import TableScript.Proofs.Syntax.Likeness
import TableScript.Proofs.Token.Place

set_option autoImplicit false

namespace TableScript

namespace TokenStream

def Gives (s : TokenStream) : List (Except LexError Token) → Prop
  | [] => s.next = (none, s)
  | item :: later => s.next.1 = some item ∧ s.next.2.Gives later

theorem gives_of_finished (l : Lexer) : Gives ⟨l, true⟩ [] := rfl

theorem gives_results (l : Lexer) : Gives ⟨l, false⟩ l.results := by
  fun_induction Lexer.results l with
  | case1 l e after next =>
    simp only [Gives, TokenStream.next, next, isLast]
    exact ⟨rfl, gives_of_finished after⟩
  | case2 l t after next last =>
    simp only [Gives, TokenStream.next, next, isLast, last]
    exact ⟨rfl, gives_of_finished after⟩
  | case3 l t after next more ih =>
    have goesOn : isLast (.ok t) = false := by simpa [isLast] using more
    simp only [Gives, TokenStream.next, next, goesOn]
    exact ⟨rfl, ih⟩

end TokenStream

namespace Lexer

theorem exists_front_of_error (l : Lexer) (e : LexError) (h : collect l.results = .error e) :
    ∃ front : List Token, (∀ t ∈ front, t.kind ≠ .eof) ∧ l.results = front.map .ok ++ [.error e] := by
  fun_induction results l with
  | case1 l e' after next =>
    cases h
    exact ⟨[], by simp, rfl⟩
  | case2 l t after next last => cases h
  | case3 l t after next more ih =>
    have failed : collect after.results = .error e := by
      cases rest : collect after.results <;> simp_all [collect, Except.map]
    obtain ⟨front, noEnd, items⟩ := ih failed
    refine ⟨t :: front, List.forall_mem_cons.mpr ⟨more, noEnd⟩, ?_⟩
    rw [items]
    rfl

end Lexer

namespace Parser

open Input Likeness

/-- Tokens before a fault, and the same tokens before others. The fault stops only the first reading. -/
def beforeFault (e : LexError) (tail : List Token) : Likeness where
  inputs s t := s.current = t.current ∧ s.kind ≠ .eof ∧ ∃ front : List Token,
    (∀ t ∈ front, t.kind ≠ .eof) ∧ s.later = front.map .ok ++ [.error e] ∧
      t.later = (front ++ tail).map .ok
  errors := Eq
  aside x := x = .lexical e

theorem beforeFault_advance (e : LexError) (tail : List Token) (s t : Input)
    (near : (beforeFault e tail).inputs s t) :
    (beforeFault e tail).Both (beforeFault e tail).inputs s.advance t.advance := by
  obtain ⟨-, -, front, noEnd, later, later'⟩ := near
  cases front with
  | nil =>
    have stuck : s.advance = .error (.lexical e) := by simp [Input.advance, later]
    rw [stuck]
    exact .aside _ _ rfl
  | cons next front =>
    obtain ⟨more, noEnd⟩ := List.forall_mem_cons.mp noEnd
    have moved : s.advance = .ok ⟨next, front.map .ok ++ [.error e]⟩ := by
      simp [Input.advance, later]
    have moved' : t.advance = .ok ⟨next, (front ++ tail).map .ok⟩ := by
      simp [Input.advance, later']
    rw [moved, moved']
    exact .read _ _ ⟨rfl, more, front, noEnd, rfl, rfl⟩

theorem lawful_beforeFault (e : LexError) (tail : List Token) : (beforeFault e tail).Lawful where
  kind s t near := congrArg Token.kind near.1
  advance s t near _ := beforeFault_advance e tail s t near
  peek s t near := (beforeFault_advance e tail s t near).mono fun _ _ _ => trivial
  unexpected s t expected near := by
    obtain ⟨same, -⟩ := near
    simp only [beforeFault, Input.kind, same]
  target s t near := by
    obtain ⟨same, -⟩ := near
    simp only [beforeFault, same]

theorem kind_of_statements (s rest : Input) (p : List Stmt)
    (h : plain (statements false s) = .ok (p, rest)) : rest.kind = .eof := by
  cases ends : endsStatements false s.kind with
  | true =>
    rw [plain_statements_stop false s ends] at h
    cases h
    simpa [endsStatements] using ends
  | false =>
    rw [plain_statements_step false s ends, bind_eq_ok_iff] at h
    obtain ⟨first, one, h⟩ := h
    obtain ⟨more, two, h⟩ := (map_eq_ok_iff _ _ _).mp h
    cases h
    have shorter := plain_shorter _ _ _ one
    exact kind_of_statements first.2 more.2 more.1 two
termination_by s.size

end Parser

namespace Program

open TableScript.Parser

theorem ofTokens_ne_lexical (ts : List Token) (fault : LexError) :
    ofTokens ts ≠ .error (.lexical fault) := by
  intro h
  rw [ofTokens_eq] at h
  cases settled_statements false ⟨0, 0, 0, 0⟩ ts with
  | reads p front rest split takes =>
    rw [split, takes rest (.inl rfl)] at h
    cases h
  | fails e front rest split refuses completes =>
    rw [split, refuses.eq_error] at h
    cases h
    cases refuses with
    | atEnd expected fails place => cases place
    | atToken t later place fails => simp [SyntaxError.At] at place

theorem ofItems_before_fault (front : List Token) (e : LexError) (noEnd : ∀ t ∈ front, t.kind ≠ .eof) :
    ofItems (front.map .ok ++ [.error e]) = .error (.lexical e) ∨
      ∃ x, ofItems (front.map .ok ++ [.error e]) = .error x ∧
        ∀ tail, ofTokens (front ++ tail) = .error x := by
  cases front with
  | nil => exact .inl rfl
  | cons t front =>
    obtain ⟨more, noEnd⟩ := List.forall_mem_cons.mp noEnd
    have alike (tail : List Token) : (beforeFault e tail).Alike
        (plain (statements false ⟨t, front.map .ok ++ [.error e]⟩))
        (plain (statements false ⟨t, (front ++ tail).map .ok⟩)) :=
      alike_statements (lawful_beforeFault e tail) false ⟨rfl, more, front, noEnd, rfl, rfl⟩
    have streamed : ofItems ((t :: front).map .ok ++ [.error e]) =
        (plain (statements false ⟨t, front.map .ok ++ [.error e]⟩)).map (·.1) := ofItems_eq _
    have collected (tail : List Token) : ofTokens (t :: front ++ tail) =
        (plain (statements false ⟨t, (front ++ tail).map .ok⟩)).map (·.1) := ofItems_eq _
    rw [streamed]
    generalize outcome : plain (statements false ⟨t, front.map .ok ++ [.error e]⟩) = first at alike
    cases first with
    | ok read =>
      -- a program is read up to the end of the text, and what is left in front of a fault is no end
      have last := kind_of_statements _ read.2 read.1 outcome
      obtain ⟨_, -, -, -, inside, -⟩ := (alike []).of_ok
      exact absurd last inside
    | error x =>
      by_cases lexical : x = .lexical e
      next => exact .inl (congrArg Except.error lexical)
      next =>
        refine .inr ⟨x, rfl, fun tail => ?_⟩
        obtain aside | ⟨_, second, rfl⟩ := (alike tail).of_error
        next => exact absurd aside lexical
        next => rw [collected, second]; rfl

theorem parse_agrees_with_ofTokens (source : String) :
    (∀ ts, tokenize source = .ok ts →
      (TokenStream.ofSource source).Gives (ts.map .ok) ∧ parse source = ofTokens ts) ∧
    ∀ e, tokenize source = .error e → ∃ front : List Token,
      (TokenStream.ofSource source).Gives (front.map .ok ++ [.error e]) ∧
      (parse source = .error (.lexical e) ∨
        ∃ x, (∀ fault, x ≠ .lexical fault) ∧ parse source = .error x ∧
          ∀ tail, ofTokens (front ++ tail) = .error x) := by
  have gives : (TokenStream.ofSource source).Gives (Lexer.ofSource source).results :=
    TokenStream.gives_results (Lexer.ofSource source)
  constructor
  next =>
    intro ts found
    have items := (Lexer.collect_eq_ok_iff _ ts).mp found
    rw [items] at gives
    exact ⟨gives, congrArg ofItems items⟩
  next =>
    intro e failed
    obtain ⟨front, noEnd, items⟩ := Lexer.exists_front_of_error _ e failed
    rw [items] at gives
    refine ⟨front, gives, ?_⟩
    have streamed : parse source = ofItems (front.map .ok ++ [.error e]) := congrArg ofItems items
    rw [streamed]
    rcases ofItems_before_fault front e noEnd with lexical | ⟨x, refused, always⟩
    next => exact .inl lexical
    next =>
      refine .inr ⟨x, ?_, refused, always⟩
      rintro fault rfl
      exact ofTokens_ne_lexical _ fault (always [])

theorem results_bang : (Lexer.ofSource "(1]2!").results =
    [.ok ⟨.symbol .lparen, ⟨0, 1, 1, 0⟩⟩, .ok ⟨.integer 1, ⟨1, 2, 1, 1⟩⟩,
      .ok ⟨.symbol .rbracket, ⟨2, 3, 1, 2⟩⟩, .ok ⟨.integer 2, ⟨3, 4, 1, 3⟩⟩,
      .error ⟨.expectedEqualAfterBang, 1, 4⟩] := by
  rw [Lexer.results_of_ok _ ⟨.symbol .lparen, ⟨0, 1, 1, 0⟩⟩ _ rfl (by decide),
    Lexer.results_of_ok _ ⟨.integer 1, ⟨1, 2, 1, 1⟩⟩ _ rfl (by decide),
    Lexer.results_of_ok _ ⟨.symbol .rbracket, ⟨2, 3, 1, 2⟩⟩ _ rfl (by decide),
    Lexer.results_of_ok _ ⟨.integer 2, ⟨3, 4, 1, 3⟩⟩ _ rfl (by decide),
    Lexer.results_of_error _ ⟨.expectedEqualAfterBang, 1, 4⟩ _ rfl]

theorem parse_agrees_with_ofTokens_bang :
    tokenize "(1]2!" = .error ⟨.expectedEqualAfterBang, 1, 4⟩ ∧
      ∃ (front : List Token) (x : SyntaxError),
        (TokenStream.ofSource "(1]2!").Gives
          (front.map .ok ++ [.error ⟨.expectedEqualAfterBang, 1, 4⟩]) ∧
        (∀ fault, x ≠ .lexical fault) ∧ parse "(1]2!" = .error x ∧
          ∀ tail, ofTokens (front ++ tail) = .error x := by
  have failed : tokenize "(1]2!" = .error ⟨.expectedEqualAfterBang, 1, 4⟩ := by
    rw [tokenize, results_bang]
    rfl
  have refused : parse "(1]2!" =
      .error (.unexpectedToken (.token (.symbol .rparen)) (.symbol .rbracket) 1 2) := by
    rw [parse, results_bang]
    cbv
  obtain ⟨front, gives, lexical | ⟨x, syntactic, same, always⟩⟩ :=
    (parse_agrees_with_ofTokens "(1]2!").2 _ failed
  next =>
    rw [refused] at lexical
    cases lexical
  next => exact ⟨failed, front, x, gives, syntactic, same, always⟩

end Program

end TableScript
