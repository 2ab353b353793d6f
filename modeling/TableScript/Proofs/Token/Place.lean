import Mathlib.Data.List.DropRight
import Mathlib.Data.String.Basic
import TableScript.Token.Lexer

set_option autoImplicit false

namespace TableScript

def lineAfter (front : List Char) : Nat := 1 + front.count '\n'

def columnAfter (front : List Char) : Nat := (front.rtakeWhile (· != '\n')).length

theorem Position.after_start (front : List Char) :
    start.after front = ⟨String.utf8Len front, lineAfter front, columnAfter front⟩ := by
  induction front using List.reverseRecOn with
  | nil => rfl
  | append_singleton front c ih =>
    rw [after_append, ih]
    by_cases line : c = '\n'
    next => simp [after, step, lineAfter, columnAfter, line, Nat.add_assoc]
    next => simp [after, step, lineAfter, columnAfter, line]

theorem exists_utf8Len_cons (c : Char) (front : List Char) :
    ∃ n, String.utf8Len (c :: front) = n + 1 ∧ n + 1 - c.utf8Size = String.utf8Len front := by
  have some := c.utf8Size_pos
  refine ⟨String.utf8Len front + (c.utf8Size - 1), ?_, ?_⟩
  next => rw [String.utf8Len_cons]; omega
  next => omega

theorem dropBytes_utf8Len (front back : List Char) :
    dropBytes (String.utf8Len front) (front ++ back) = back := by
  induction front with
  | nil => cases back <;> rfl
  | cons c front ih =>
    obtain ⟨n, size, left⟩ := exists_utf8Len_cons c front
    rw [size, List.cons_append, dropBytes, left, ih]

theorem takeBytes_utf8Len (front back : List Char) :
    takeBytes (String.utf8Len front) (front ++ back) = front := by
  induction front with
  | nil => cases back <;> rfl
  | cons c front ih =>
    obtain ⟨n, size, left⟩ := exists_utf8Len_cons c front
    rw [size, List.cons_append, takeBytes, left, ih]

theorem slice_utf8Len (front inner back : List Char) :
    slice (front ++ inner ++ back) (String.utf8Len front) (String.utf8Len (front ++ inner)) =
      inner := by
  rw [slice, String.utf8Len_append, Nat.add_sub_cancel_left, List.append_assoc, dropBytes_utf8Len,
    takeBytes_utf8Len]

namespace Lexer

def afterReads (l : Lexer) : Nat → Lexer
  | 0 => l
  | n + 1 => (l.afterReads n).next.2

theorem afterReads_next (l : Lexer) (n : Nat) : l.next.2.afterReads n = l.afterReads (n + 1) := by
  induction n with
  | zero => rfl
  | succ n ih => rw [afterReads, ih]; rfl

/-- What is left stands behind `front` in the text, and the position is the one behind `front`. -/
structure Behind (l : Lexer) (source front : List Char) : Prop where
  text : front ++ l.rest = source
  place : l.pos = Position.start.after front

theorem Behind.skipBlank {l : Lexer} {source front : List Char} (h : l.Behind source front) :
    l.skipBlank.Behind source (front ++ l.rest.takeWhile Text.isBlank) where
  text := by rw [← h.text, Lexer.skipBlank, List.append_assoc, List.takeWhile_append_dropWhile]
  place := by rw [Position.after_append, ← h.place, Lexer.skipBlank]

theorem Behind.lexeme {l : Lexer} {source front : List Char} (h : l.Behind source front)
    (w rest : List Char) (here : l.rest = w ++ rest) (kind : TokenKind) :
    (⟨kind, span l.pos (l.pos.after w)⟩ : Token).lexeme source = w := by
  have size : String.utf8Len (front ++ w) - String.utf8Len front = String.utf8Len w := by
    rw [String.utf8Len_append, Nat.add_sub_cancel_left]
  rw [h.place, ← Position.after_append]
  simp only [Token.lexeme, slice, span, Position.after_start, size]
  rw [← h.text, dropBytes_utf8Len, here, takeBytes_utf8Len]

theorem finish_snd (p : Position) (s : Scan) : (finish p s).2 = ⟨s.rest, p.after s.taken⟩ := by
  cases outcome : s.outcome <;> simp only [finish, outcome]

theorem finish_eq_ok_iff (p : Position) (s : Scan) (t : Token) (after : Lexer) :
    finish p s = (.ok t, after) ↔ ∃ kind, s.outcome = .ok kind ∧
      ⟨kind, span p (p.after s.taken)⟩ = t ∧ ⟨s.rest, p.after s.taken⟩ = after := by
  cases outcome : s.outcome <;> simp [finish, outcome]

theorem finish_eq_error_iff (p : Position) (s : Scan) (e : LexError) (after : Lexer) :
    finish p s = (.error e, after) ↔ ∃ fault, s.outcome = .error fault ∧
      ⟨fault, p.line, p.column⟩ = e ∧ ⟨s.rest, p.after s.taken⟩ = after := by
  cases outcome : s.outcome <;> simp [finish, outcome]

theorem next_of_cons (l : Lexer) (c : Char) (cs : List Char) (h : l.skipBlank.rest = c :: cs) :
    l.next = finish l.skipBlank.pos (Scan.read c cs) := by
  simp only [next, h]

theorem next_cases (l : Lexer) :
    l.skipBlank.rest = [] ∧ l.next = (.ok (endToken l.skipBlank.pos), l.skipBlank) ∨
      ∃ c cs, l.skipBlank.rest = c :: cs ∧ l.next = finish l.skipBlank.pos (Scan.read c cs) := by
  cases here : l.skipBlank.rest with
  | nil => exact .inl ⟨rfl, by simp only [next, here]⟩
  | cons c cs => exact .inr ⟨c, cs, rfl, next_of_cons l c cs here⟩

theorem collect_eq_ok_iff (items : List (Except LexError Token)) (ts : List Token) :
    collect items = .ok ts ↔ items = ts.map .ok := by
  constructor
  next =>
    intro h
    induction items generalizing ts with
    | nil =>
      cases h
      rfl
    | cons item later ih =>
      cases item with
      | error e => cases h
      | ok t =>
        cases rest : collect later with
        | error e => simp [collect, rest, Except.map] at h
        | ok others =>
          simp only [collect, rest, Except.map, Except.ok.injEq] at h
          rw [ih others rest, ← h]
          rfl
  next =>
    rintro rfl
    exact collect_map_ok ts

theorem results_of_ok (l : Lexer) (t : Token) (after : Lexer) (h : l.next = (.ok t, after))
    (more : t.kind ≠ .eof) : l.results = .ok t :: after.results := by
  rw [results]
  split
  next other => simp [h] at other
  next found =>
    cases h.symm.trans found
    rw [dif_neg more]

theorem results_of_error (l : Lexer) (e : LexError) (after : Lexer) (h : l.next = (.error e, after)) :
    l.results = [.error e] := by
  rw [results]
  split
  next found => cases h.symm.trans found; rfl
  next other => simp [h] at other

theorem results_of_end (l : Lexer) (t : Token) (after : Lexer) (h : l.next = (.ok t, after))
    (last : t.kind = .eof) : l.results = [.ok t] := by
  rw [results]
  split
  next other => simp [h] at other
  next found =>
    cases h.symm.trans found
    rw [dif_pos last]

theorem Behind.finish {l : Lexer} {source front : List Char} (h : l.Behind source front) (c : Char)
    (cs : List Char) (here : l.rest = c :: cs) :
    (Lexer.finish l.pos (Scan.read c cs)).2.Behind source (front ++ (Scan.read c cs).taken) where
  text := by
    have whole : (Scan.read c cs).taken ++ (Scan.read c cs).rest = c :: cs := Scan.splits_read c cs
    rw [finish_snd, List.append_assoc, whole, ← here, h.text]
  place := by rw [finish_snd, Position.after_append, h.place]

theorem Behind.next {l : Lexer} {source front : List Char} (h : l.Behind source front) :
    ∃ more, l.next.2.Behind source (front ++ more) := by
  rcases l.next_cases with ⟨-, same⟩ | ⟨c, cs, here, same⟩
  next => exact ⟨_, by rw [same]; exact h.skipBlank⟩
  next =>
    refine ⟨l.rest.takeWhile Text.isBlank ++ (Scan.read c cs).taken, ?_⟩
    rw [same, ← List.append_assoc]
    exact h.skipBlank.finish c cs here

theorem exists_behind (source : String) (n : Nat) :
    ∃ front, ((ofSource source).afterReads n).Behind source.toList front := by
  induction n with
  | zero => exact ⟨[], rfl, rfl⟩
  | succ n ih =>
    obtain ⟨front, here⟩ := ih
    obtain ⟨more, there⟩ := here.next
    exact ⟨front ++ more, there⟩

end Lexer

end TableScript
