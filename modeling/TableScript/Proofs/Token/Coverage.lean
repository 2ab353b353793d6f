import TableScript.Proofs.Token.Longest

set_option autoImplicit false

namespace TableScript

def gaps (source : List Char) : Nat → List Token → List (List Char)
  | _, [] => []
  | start, t :: ts => slice source start t.span.start :: gaps source t.span.stop ts

def IsBoundary (source : List Char) (offset : Nat) : Prop :=
  ∃ front, front <+: source ∧ String.utf8Len front = offset

def Token.Located (t : Token) (source : List Char) : Prop :=
  t.span.line = lineAfter (takeBytes t.span.start source) ∧
    t.span.column = columnAfter (takeBytes t.span.start source)

def Token.covering (kind : TokenKind) (front w : List Char) : Token :=
  ⟨kind, Lexer.span (Position.start.after front) (Position.start.after (front ++ w))⟩

namespace Token

variable (kind : TokenKind) (front w rest : List Char)

@[simp] theorem covering_start : (covering kind front w).span.start = String.utf8Len front := by
  simp [covering, Lexer.span, Position.after_start]

@[simp] theorem covering_stop :
    (covering kind front w).span.stop = String.utf8Len (front ++ w) := by
  simp only [covering, Lexer.span, Position.after_start]

theorem covering_lexeme : (covering kind front w).lexeme (front ++ w ++ rest) = w := by
  have same := slice_utf8Len front w rest
  rwa [← covering_start kind front w, ← covering_stop kind front w] at same

theorem covering_located : (covering kind front w).Located (front ++ w ++ rest) := by
  rw [Located, covering_start, List.append_assoc, takeBytes_utf8Len]
  simp [covering, Lexer.span, Position.after_start]

end Token

/-- Tokens that cover a text from behind `front` on, with blanks between them. -/
inductive Covered (source : List Char) : List Char → List Token → Prop where
  | last (front blanks : List Char) (text : front ++ blanks = source)
      (blank : ∀ c ∈ blanks, Text.isBlank c = true) :
      Covered source front [.covering .eof source []]
  | token (front blanks w rest : List Char) (kind : TokenKind) (ts : List Token)
      (text : front ++ blanks ++ w ++ rest = source) (blank : ∀ c ∈ blanks, Text.isBlank c = true)
      (some : w ≠ []) (more : kind ≠ .eof) (later : Covered source (front ++ blanks ++ w) ts) :
      Covered source front (.covering kind (front ++ blanks) w :: ts)

namespace Lexer

theorem next_ok_cases (l after : Lexer) (source front : List Char) (t : Token)
    (behind : l.Behind source front) (h : l.next = (.ok t, after)) :
    ∃ blanks, (∀ c ∈ blanks, Text.isBlank c = true) ∧
      (front ++ blanks = source ∧ t = .covering .eof source [] ∨
        ∃ kind w, w ≠ [] ∧ kind ≠ .eof ∧ t = .covering kind (front ++ blanks) w ∧
          after.Behind source (front ++ blanks ++ w)) := by
  have here := behind.skipBlank
  refine ⟨l.rest.takeWhile Text.isBlank, fun c => List.mem_takeWhile_imp, ?_⟩
  rcases l.next_cases with ⟨last, same⟩ | ⟨c, cs, shape, same⟩
  next =>
    have whole := here.text
    rw [last, List.append_nil] at whole
    cases same.symm.trans h
    refine .inl ⟨whole, ?_⟩
    rw [here.place, whole, endToken, Token.covering, List.append_nil]
  next =>
    have there := here.finish c cs shape
    rw [same] at h
    rw [h] at there
    obtain ⟨kind, outcome, rfl, -⟩ := (finish_eq_ok_iff _ _ t after).mp h
    have lexeme := Scan.lexical_read c cs kind outcome
    refine .inr ⟨kind, (Scan.read c cs).taken, lexeme.ne_nil, lexeme.ne_eof, ?_, there⟩
    rw [here.place, ← Position.after_append, Token.covering]

theorem covered_of_results (l : Lexer) (source front : List Char) (ts : List Token)
    (behind : l.Behind source front) (h : collect l.results = .ok ts) : Covered source front ts := by
  fun_induction results l generalizing front ts with
  | case1 l e after next => cases h
  | case2 l t after next last =>
    cases h
    obtain ⟨blanks, blank, ⟨text, rfl⟩ | ⟨kind, w, -, more, rfl, -⟩⟩ :=
      next_ok_cases l after source front t behind next
    next => exact .last front blanks text blank
    next => exact absurd last more
  | case3 l t after next more ih =>
    obtain ⟨later, others, rfl⟩ : ∃ later, collect after.results = .ok later ∧ t :: later = ts := by
      cases others : collect after.results <;> simp_all [collect, Except.map]
    obtain ⟨blanks, blank, ⟨-, rfl⟩ | ⟨kind, w, some, more, rfl, there⟩⟩ :=
      next_ok_cases l after source front t behind next
    next => exact absurd rfl more
    next =>
      exact .token front blanks w after.rest kind later there.text blank some more
        (ih _ later there others)

theorem exists_read_of_results (l : Lexer) (e : LexError) (h : collect l.results = .error e) :
    ∃ n after, (l.afterReads n).next = (.error e, after) := by
  fun_induction results l with
  | case1 l e' after next =>
    cases h
    exact ⟨0, after, next⟩
  | case2 l t after next last => cases h
  | case3 l t after next more ih =>
    have failed : collect after.results = .error e := by
      cases others : collect after.results <;> simp_all [collect, Except.map]
    obtain ⟨n, final, read⟩ := ih failed
    refine ⟨n + 1, final, ?_⟩
    rwa [← afterReads_next, next]

end Lexer

namespace Covered

variable {source front : List Char} {ts : List Token}

theorem start_le (h : Covered source front ts) : ∀ t ∈ ts, String.utf8Len front ≤ t.span.start := by
  induction h with
  | last front blanks text blank =>
    subst text
    simp
  | token front blanks w rest kind ts text blank some more later ih =>
    intro t inside
    rcases List.mem_cons.mp inside with rfl | inside
    next => simp
    next =>
      have := ih t inside
      simp only [String.utf8Len_append] at this
      omega

theorem ordered (h : Covered source front ts) :
    ts.Pairwise fun t u => t.span.start < u.span.start ∧ t.span.stop ≤ u.span.start := by
  induction h with
  | last => exact List.pairwise_singleton _ _
  | token front blanks w rest kind ts text blank some more later ih =>
    refine List.pairwise_cons.mpr ⟨fun u inside => ?_, ih⟩
    have positive : String.utf8Len w ≠ 0 := fun none => some (String.utf8Len_eq_zero.mp none)
    have := later.start_le u inside
    simp only [Token.covering_start, Token.covering_stop, String.utf8Len_append] at this ⊢
    omega

theorem gaps_covering (front blanks w rest : List Char) (kind : TokenKind) (ts : List Token) :
    gaps (front ++ blanks ++ w ++ rest) (String.utf8Len front)
        (.covering kind (front ++ blanks) w :: ts) =
      blanks :: gaps (front ++ blanks ++ w ++ rest) (String.utf8Len (front ++ blanks ++ w)) ts := by
  have gap := slice_utf8Len front blanks (w ++ rest)
  rw [← List.append_assoc] at gap
  rw [gaps, Token.covering_start, Token.covering_stop, gap]

theorem gaps_last (front blanks : List Char) :
    gaps (front ++ blanks) (String.utf8Len front) [.covering .eof (front ++ blanks) []] =
      [blanks] := by
  have gap := gaps_covering front blanks [] [] .eof []
  rwa [List.append_nil, List.append_nil] at gap

theorem gaps_blank (h : Covered source front ts) :
    ∀ gap ∈ gaps source (String.utf8Len front) ts, ∀ c ∈ gap, Text.isBlank c = true := by
  induction h with
  | last front blanks text blank =>
    subst text
    rw [gaps_last]
    simpa using blank
  | token front blanks w rest kind ts text blank some more later ih =>
    subst text
    rw [gaps_covering]
    exact List.forall_mem_cons.mpr ⟨blank, ih⟩

theorem concat (h : Covered source front ts) :
    front ++ (List.zipWith (fun gap t => gap ++ t.lexeme source)
      (gaps source (String.utf8Len front) ts) ts).flatten = source := by
  induction h with
  | last front blanks text blank =>
    subst text
    have none := Token.covering_lexeme .eof (front ++ blanks) [] []
    rw [List.append_nil, List.append_nil] at none
    simp [gaps_last, none]
  | token front blanks w rest kind ts text blank some more later ih =>
    subst text
    rw [gaps_covering, List.zipWith_cons_cons, List.flatten_cons, Token.covering_lexeme]
    simpa only [List.append_assoc] using ih

theorem located (h : Covered source front ts) : ∀ t ∈ ts, t.Located source := by
  induction h with
  | last front blanks text blank =>
    have place := Token.covering_located .eof source [] []
    rw [List.append_nil, List.append_nil] at place
    simpa using place
  | token front blanks w rest kind ts text blank some more later ih =>
    subst text
    exact List.forall_mem_cons.mpr ⟨Token.covering_located kind _ w rest, ih⟩

theorem exists_last (h : Covered source front ts) :
    ∃ read, ts = read ++ [.covering .eof source []] ∧ ∀ t ∈ read, t.kind ≠ .eof ∧
      t.span.start < t.span.stop ∧ IsBoundary source t.span.start ∧ IsBoundary source t.span.stop := by
  induction h with
  | last => exact ⟨[], rfl, by simp⟩
  | token front blanks w rest kind ts text blank some more later ih =>
    obtain ⟨read, rfl, all⟩ := ih
    refine ⟨_ :: read, rfl, List.forall_mem_cons.mpr ⟨⟨more, ?_, ?_, ?_⟩, all⟩⟩
    next =>
      have positive : String.utf8Len w ≠ 0 := fun none => some (String.utf8Len_eq_zero.mp none)
      simp only [Token.covering_start, Token.covering_stop, String.utf8Len_append]
      omega
    next =>
      refine ⟨front ++ blanks, ⟨w ++ rest, ?_⟩, (Token.covering_start ..).symm⟩
      rw [← List.append_assoc, text]
    next => exact ⟨front ++ blanks ++ w, ⟨rest, text⟩, (Token.covering_stop ..).symm⟩

end Covered

structure Tiling (source : String) (ts : List Token) : Prop where
  last : ∃ read stop, ts = read ++ [stop] ∧ stop.kind = .eof ∧
    stop.span.start = source.utf8ByteSize ∧ stop.span.stop = source.utf8ByteSize ∧
    ∀ t ∈ read, t.kind ≠ .eof ∧ t.span.start < t.span.stop ∧
      IsBoundary source.toList t.span.start ∧ IsBoundary source.toList t.span.stop
  ordered : ts.Pairwise fun t u => t.span.start < u.span.start ∧ t.span.stop ≤ u.span.start
  blanks : ∀ gap ∈ gaps source.toList 0 ts, ∀ c ∈ gap, Text.isBlank c = true
  whole : (List.zipWith (fun gap t => gap ++ t.lexeme source.toList) (gaps source.toList 0 ts)
    ts).flatten = source.toList

theorem Covered.tiling {source : String} {ts : List Token} (h : Covered source.toList [] ts) :
    Tiling source ts where
  last := by
    have size : source.utf8ByteSize = String.utf8Len source.toList := by
      rw [← String.utf8ByteSize_ofList, String.ofList_toList]
    obtain ⟨read, rfl, all⟩ := h.exists_last
    refine ⟨read, _, rfl, rfl, ?_, ?_, all⟩
    next => rw [Token.covering_start, size]
    next => rw [Token.covering_stop, List.append_nil, size]
  ordered := h.ordered
  blanks := h.gaps_blank
  whole := h.concat

namespace Lexer

theorem located_of_next (source : String) (n : Nat) (t : Token) (after : Lexer)
    (h : ((ofSource source).afterReads n).next = (.ok t, after)) : t.Located source.toList := by
  obtain ⟨front, behind⟩ := exists_behind source n
  obtain ⟨blanks, -, ⟨text, rfl⟩ | ⟨kind, w, -, -, rfl, there⟩⟩ := next_ok_cases _ _ _ _ t behind h
  next =>
    have place := Token.covering_located .eof source.toList [] []
    rwa [List.append_nil, List.append_nil] at place
  next =>
    rw [← there.text]
    exact Token.covering_located kind _ w after.rest

theorem place_of_error (source : String) (n : Nat) (e : LexError) (after : Lexer)
    (h : ((ofSource source).afterReads n).next = (.error e, after)) :
    ∃ front, front ++ ((ofSource source).afterReads n).skipBlank.rest = source.toList ∧
      e.line = lineAfter front ∧ e.column = columnAfter front := by
  obtain ⟨front, behind⟩ := exists_behind source n
  have here := behind.skipBlank
  refine ⟨_, here.text, ?_⟩
  rcases next_cases ((ofSource source).afterReads n) with ⟨-, same⟩ | ⟨c, cs, -, same⟩
  next => cases same.symm.trans h
  next =>
    rw [same] at h
    rw [here.finish_error c cs e after h]
    exact ⟨rfl, rfl⟩

end Lexer

theorem tokens_tile_their_source (source : String) :
    (∀ ts, tokenize source = .ok ts → Tiling source ts ∧ ∀ t ∈ ts, t.Located source.toList) ∧
    (∀ e, tokenize source = .error e →
      ∃ n after, ((Lexer.ofSource source).afterReads n).next = (.error e, after)) ∧
    ∀ n, let l := (Lexer.ofSource source).afterReads n
      (∀ t after, l.next = (.ok t, after) → t.Located source.toList) ∧
      ∀ e after, l.next = (.error e, after) → ∃ front, front ++ l.skipBlank.rest = source.toList ∧
        e.line = lineAfter front ∧ e.column = columnAfter front := by
  refine ⟨fun ts h => ?_, fun e h => ?_, fun n => ⟨fun t after h => ?_, fun e after h => ?_⟩⟩
  next =>
    have covered := Lexer.covered_of_results _ source.toList [] ts ⟨rfl, rfl⟩ h
    exact ⟨covered.tiling, covered.located⟩
  next => exact Lexer.exists_read_of_results _ e h
  next => exact Lexer.located_of_next source n t after h
  next => exact Lexer.place_of_error source n e after h

end TableScript
