import TableScript.Proofs.Token.Longest

set_option autoImplicit false

namespace TableScript

def Unclosed (quote : Char) (text : List Char) : Prop :=
  ∀ body, Encloses quote body → ¬ body ++ [quote] <+: text

def shielded (quote : Char) (s : List Char) : List Char :=
  s.flatMap fun c => if c = '\\' ∨ c = quote then ['\\', c] else [c]

theorem shielded_cons (quote c : Char) (s : List Char) :
    shielded quote (c :: s) =
      (if c = '\\' ∨ c = quote then ['\\', c] else [c]) ++ shielded quote s := rfl

section

variable {quote : Char} (mark : quote = '"' ∨ quote = '\'')

include mark

theorem encloses_shielded (s : List Char) : Encloses quote (shielded quote s) := by
  induction s with
  | nil => exact encloses_nil quote
  | cons c s ih =>
    rw [shielded_cons]
    split
    next => exact (encloses_pair quote c _ (quote_ne_backslash mark)).mpr ih
    next plain =>
      rw [not_or] at plain
      exact (encloses_cons quote c _ plain.2 plain.1).mpr ih

theorem unescaped_shielded (s : List Char) : unescaped (shielded quote s) = s := by
  induction s with
  | nil => rfl
  | cons c s ih =>
    rw [shielded_cons]
    split
    next special =>
      have itself : Quotation.meaning c = [c] := by
        rw [Quotation.meaning, if_pos]
        rcases special with rfl | rfl
        next => exact .inr (.inr rfl)
        next => exact mark.imp_right .inl
      rw [List.cons_append, List.singleton_append, Quotation.unescaped_pair, itself, ih,
        List.singleton_append]
    next plain =>
      rw [not_or] at plain
      rw [List.singleton_append, Quotation.unescaped_plain c _ plain.1, ih]

end

namespace Quotation

theorem contents_of_unclosed (quote : Char) (text : List Char) (mark : quote ≠ '\\')
    (h : Unclosed quote text) :
    (read quote text).contents =
      .error (if Escapes text then .unterminatedEscape else .unterminatedString) := by
  cases contents : (read quote text).contents with
  | error fault => rw [fault_of_read quote text fault contents]
  | ok meant =>
    obtain ⟨body, taken, closed, -⟩ := encloses_of_read quote text meant mark contents
    have whole := taken_append_rest quote text .start text
    rw [← copy, copy_eq_read, taken] at whole
    exact absurd ⟨_, whole⟩ (h body closed)

theorem unclosed_of_error (quote : Char) (text : List Char) (fault : LexFault) (mark : quote ≠ '\\')
    (h : (read quote text).contents = .error fault) : Unclosed quote text := by
  rintro body closed ⟨rest, rfl⟩
  rw [List.append_assoc, List.singleton_append, read_of_encloses quote body rest mark closed] at h
  cases h

theorem contents_eq_error_iff (quote : Char) (text : List Char) (fault : LexFault)
    (mark : quote ≠ '\\') :
    (read quote text).contents = .error fault ↔ Unclosed quote text ∧
      fault = if Escapes text then .unterminatedEscape else .unterminatedString := by
  constructor
  next =>
    intro h
    exact ⟨unclosed_of_error quote text fault mark h, fault_of_read quote text fault h⟩
  next =>
    rintro ⟨unclosed, rfl⟩
    exact contents_of_unclosed quote text mark unclosed

end Quotation

namespace Lexer

theorem next_of_quote (quote : Char) (text : List Char) (p : Position)
    (mark : quote = '"' ∨ quote = '\'') :
    next ⟨quote :: text, p⟩ = finish p (Scan.quotation quote text) := by
  have visible : Text.isBlank quote = false := by rcases mark with rfl | rfl <;> decide
  have here : skipBlank ⟨quote :: text, p⟩ = ⟨quote :: text, p⟩ := by
    simp [skipBlank, visible]
  rw [next_of_cons _ quote text (congrArg rest here), here, Scan.read_quotation quote text mark]

theorem next_of_encloses (quote : Char) (body rest : List Char) (p : Position)
    (mark : quote = '"' ∨ quote = '\'') (closed : Encloses quote body) :
    let stop := p.after (quote :: (body ++ [quote]))
    next ⟨quote :: (body ++ quote :: rest), p⟩ =
      (.ok ⟨.string (String.ofList (unescaped body)), span p stop⟩, ⟨rest, stop⟩) := by
  rw [next_of_quote quote _ p mark, Scan.quotation_eq,
    Quotation.read_of_encloses quote body rest (quote_ne_backslash mark) closed]
  rfl

theorem next_eq_error_iff (quote : Char) (text : List Char) (p : Position) (fault : LexFault)
    (mark : quote = '"' ∨ quote = '\'') :
    (next ⟨quote :: text, p⟩).1 = .error ⟨fault, p.line, p.column⟩ ↔ Unclosed quote text ∧
      fault = if Escapes text then .unterminatedEscape else .unterminatedString := by
  rw [← Quotation.contents_eq_error_iff quote text fault (quote_ne_backslash mark),
    next_of_quote quote text p mark, Scan.quotation_eq]
  cases contents : (Quotation.read quote text).contents <;> simp [finish, Except.map]

theorem tokenize_shielded (quote : Char) (s : String) (mark : quote = '"' ∨ quote = '\'') :
    let source := String.ofList (quote :: (shielded quote s.toList ++ [quote]))
    tokenize source = .ok [⟨.string s, ⟨0, source.utf8ByteSize, 1, 0⟩⟩,
      endToken (Position.start.after source.toList)] := by
  intro source
  have text : source.toList = quote :: (shielded quote s.toList ++ [quote]) := String.toList_ofList
  have size : (Position.start.after source.toList).offset = source.utf8ByteSize := by
    rw [Position.after_start, text, ← String.utf8ByteSize_ofList]
  have first : (ofSource source).next = (.ok ⟨.string s, ⟨0, source.utf8ByteSize, 1, 0⟩⟩,
      ⟨[], Position.start.after source.toList⟩) := by
    have read := next_of_encloses quote _ [] .start mark (encloses_shielded mark s.toList)
    rw [unescaped_shielded mark, String.ofList_toList, ← text] at read
    rw [ofSource, read, span, size]
    rfl
  rw [tokenize, results_of_ok _ _ _ first (by simp), results_of_end _ _ _ rfl rfl]
  rfl

theorem text_literals_decode (quote : Char) (mark : quote = '"' ∨ quote = '\'')
    (text : List Char) (p : Position) :
    (∀ body rest, text = body ++ quote :: rest → Encloses quote body →
      let stop := p.after (quote :: (body ++ [quote]))
      next ⟨quote :: text, p⟩ =
        (.ok ⟨.string (String.ofList (unescaped body)), span p stop⟩, ⟨rest, stop⟩)) ∧
    ((next ⟨quote :: text, p⟩).1 = .error ⟨.unterminatedEscape, p.line, p.column⟩ ↔
      Unclosed quote text ∧ Escapes text) ∧
    ((next ⟨quote :: text, p⟩).1 = .error ⟨.unterminatedString, p.line, p.column⟩ ↔
      Unclosed quote text ∧ ¬ Escapes text) ∧
    ∀ s : String, let source := String.ofList (quote :: (shielded quote s.toList ++ [quote]))
      tokenize source = .ok [⟨.string s, ⟨0, source.utf8ByteSize, 1, 0⟩⟩,
        endToken (Position.start.after source.toList)] := by
  refine ⟨?_, ?_, ?_, fun s => tokenize_shielded quote s mark⟩
  next =>
    rintro body rest rfl closed
    exact next_of_encloses quote body rest p mark closed
  next =>
    rw [next_eq_error_iff quote text p _ mark]
    by_cases within : Escapes text <;> simp [within]
  next =>
    rw [next_eq_error_iff quote text p _ mark]
    by_cases within : Escapes text <;> simp [within]

theorem text_literals_decode_escaped :
    let body := ['\\', 'é', '\\', '\'']
    Encloses '\'' body ∧ next ⟨'\'' :: (body ++ ['\'', 'x']), .start⟩ =
      (.ok ⟨.string (String.ofList ['\\', 'é', '\'']), ⟨0, 7, 1, 0⟩⟩, ⟨['x'], ⟨7, 1, 6⟩⟩) := by
  intro body
  have mark : '\'' ≠ '\\' := by decide
  have closed : Encloses '\'' body :=
    (encloses_pair _ _ _ mark).mpr ((encloses_pair _ _ _ mark).mpr (encloses_nil _))
  obtain ⟨read, -⟩ := text_literals_decode '\'' (.inr rfl) (body ++ ['\'', 'x']) .start
  exact ⟨closed, (read body ['x'] rfl closed).trans rfl⟩

end Lexer

end TableScript
