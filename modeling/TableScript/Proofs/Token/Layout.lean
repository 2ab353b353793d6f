import TableScript.Proofs.Token.Longest

set_option autoImplicit false

namespace TableScript

theorem Text.Ranges.disjoint (one two : Ranges)
    (apart : ∀ r ∈ one, ∀ q ∈ two, r.2 < q.1 ∨ q.2 < r.1) (c : Char) (h : one.has c = true) :
    two.has c = false := by
  rw [Bool.eq_false_iff]
  intro also
  obtain ⟨r, inside, low, high⟩ := (has_eq_true_iff one c).mp h
  obtain ⟨q, inside', low', high'⟩ := (has_eq_true_iff two c).mp also
  have := apart r inside q inside'
  omega

theorem Quotation.read_append (quote : Char) (cs more contents : List Char)
    (h : (read quote cs).contents = .ok contents) :
    read quote (cs ++ more) =
      ⟨(read quote cs).contents, (read quote cs).taken, (read quote cs).rest ++ more⟩ := by
  fun_induction read quote cs generalizing contents with
  | case1 => cases h
  | case2 cs => exact read_quote quote (cs ++ more)
  | case3 => cases h
  | case4 e cs other ih =>
    obtain ⟨later, inner, -⟩ := (push_contents_eq_ok_iff _ _ _ _).mp h
    have mark : quote ≠ '\\' := fun same => other same.symm
    rw [List.cons_append, List.cons_append, read_pair quote e _ mark, ih later inner]
    rfl
  | case5 c cs other plain ih =>
    obtain ⟨later, inner, -⟩ := (push_contents_eq_ok_iff _ _ _ _).mp h
    rw [List.cons_append, read_plain quote c _ other plain, ih later inner]
    rfl

namespace Scan

def before (s : Scan) (more : List Char) : Scan := ⟨s.outcome, s.taken, s.rest ++ more⟩

section

variable {b : Char} (blank : Text.isBlank b = true)

include blank

theorem ne_of_isBlank (c : Char) (visible : Text.isBlank c = false) : b ≠ c := by
  rintro rfl
  exact absurd blank (Bool.eq_false_iff.mp visible)

theorem isWordPart_of_isBlank : isWordPart b = false := by
  have letter : Text.isLetter b = false := Text.Ranges.disjoint _ _ (by decide +kernel) b blank
  have numeral : Text.isNumeral b = false := Text.Ranges.disjoint _ _ (by decide +kernel) b blank
  simp [isWordPart, letter, numeral, ne_of_isBlank blank '_' (by decide)]

theorem isDigit_of_isBlank : Numeral.isDigit b = false := by
  rw [Bool.eq_false_iff]
  intro digit
  obtain ⟨range, inside, low, high⟩ := (Text.has_eq_true_iff Text.blankRanges b).mp blank
  have apart : ∀ r ∈ Text.blankRanges, r.2 < 0x30 ∨ 0x39 < r.1 := by decide
  have := apart range inside
  have := Numeral.isDigit_bounds b digit
  omega

end

theorem takeWhile_before (p : Char → Bool) (cs more : List Char) (b : Char) (ends : p b = false) :
    (cs ++ b :: more).takeWhile p = cs.takeWhile p ∧
      (cs ++ b :: more).dropWhile p = cs.dropWhile p ++ b :: more := by
  induction cs with
  | nil => simp [ends]
  | cons c cs ih =>
    cases goesOn : p c <;> simp [goesOn, ih]

theorem withEqual_before (plain equal : Symbol) (c b : Char) (cs more : List Char)
    (blank : Text.isBlank b = true) :
    withEqual plain equal c (cs ++ b :: more) = (withEqual plain equal c cs).before (b :: more) := by
  have other : b ≠ '=' := ne_of_isBlank blank '=' (by decide)
  cases cs with
  | nil => simp [withEqual, other, before, symbol]
  | cons d cs =>
    by_cases equals : d = '=' <;> simp [withEqual, equals, before, symbol]

theorem bang_before (c : Char) (cs more : List Char) (kind : TokenKind)
    (h : (bang c cs).outcome = .ok kind) : bang c (cs ++ more) = (bang c cs).before more := by
  unfold bang at h
  split at h
  next => rfl
  next => cases h

theorem quotation_before (c : Char) (cs more : List Char) (kind : TokenKind)
    (h : (quotation c cs).outcome = .ok kind) :
    quotation c (cs ++ more) = (quotation c cs).before more := by
  cases inner : (Quotation.read c cs).contents with
  | error fault => simp [quotation_eq, inner, Except.map] at h
  | ok contents =>
    simp only [quotation_eq, Quotation.read_append c cs more contents inner]
    rfl

-- A blank behind a text changes nothing in the scan of its first token.
theorem read_before (c b : Char) (cs more : List Char) (kind : TokenKind)
    (blank : Text.isBlank b = true) (h : (read c cs).outcome = .ok kind) :
    read c (cs ++ b :: more) = (read c cs).before (b :: more) := by
  by_cases mark : c ∈ marks
  next =>
    simp only [marks, List.mem_cons, List.not_mem_nil, or_false] at mark
    rcases mark with rfl | rfl | rfl | rfl | rfl | rfl | rfl | rfl | rfl | rfl | rfl | rfl | rfl | rfl |
      rfl | rfl | rfl | rfl
    all_goals
      first
      | rfl
      | exact withEqual_before _ _ _ b cs more blank
      | exact bang_before _ cs _ kind h
      | exact quotation_before _ cs _ kind h
  next =>
    rw [read_of_not_mem_marks c cs mark] at h ⊢
    rw [read_of_not_mem_marks c _ mark]
    split at h
    next digit =>
      obtain ⟨taken, left⟩ := takeWhile_before _ cs more b (isDigit_of_isBlank blank)
      simp only [digit, if_true, digits, taken, left, before]
    next other =>
      split at h
      next first =>
        obtain ⟨taken, left⟩ := takeWhile_before _ cs more b (isWordPart_of_isBlank blank)
        simp only [other, first, if_true, word, taken, left, before]
        rfl
      next => cases h

end Scan

inductive Spelled : List Char → List TokenKind → Prop where
  | last (blanks : List Char) (blank : ∀ c ∈ blanks, Text.isBlank c = true) : Spelled blanks []
  | token (blanks : List Char) (c : Char) (cs : List Char) (kind : TokenKind) (ks : List TokenKind)
      (blank : ∀ c ∈ blanks, Text.isBlank c = true) (visible : Text.isBlank c = false)
      (scanned : (Scan.read c cs).outcome = .ok kind) (later : Spelled (Scan.read c cs).rest ks) :
      Spelled (blanks ++ c :: cs) (kind :: ks)

namespace Spelled

variable {text other : List Char} {ks ks' : List TokenKind}

theorem eof_not_mem (h : Spelled text ks) : .eof ∉ ks := by
  induction h with
  | last => simp
  | token blanks c cs kind ks blank visible scanned later ih =>
    have lexeme := Scan.lexical_read c cs kind scanned
    simp [lexeme.ne_eof.symm, ih]

theorem behind_blanks (h : Spelled text ks) (blanks : List Char)
    (blank : ∀ c ∈ blanks, Text.isBlank c = true) : Spelled (blanks ++ text) ks := by
  cases h with
  | last _ more => exact .last _ (List.forall_mem_append.mpr ⟨blank, more⟩)
  | token inner c cs kind ks more visible scanned later =>
    rw [← List.append_assoc]
    exact .token _ c cs kind ks (List.forall_mem_append.mpr ⟨blank, more⟩) visible scanned later

theorem append (h : Spelled text ks) (h' : Spelled other ks') (b : Char)
    (blank : Text.isBlank b = true) : Spelled (text ++ b :: other) (ks ++ ks') := by
  induction h with
  | last blanks all =>
    have all : ∀ c ∈ blanks ++ [b], Text.isBlank c = true := by simpa [or_imp, forall_and, blank] using all
    simpa using h'.behind_blanks (blanks ++ [b]) all
  | token blanks c cs kind ks all visible scanned later ih =>
    have same := Scan.read_before c b cs other kind blank scanned
    rw [List.append_assoc, List.cons_append, List.cons_append]
    refine .token blanks c _ kind _ all visible ?_ ?_
    next => rwa [same]
    next => rwa [same]

end Spelled

namespace Lexer

-- What one reading makes of the text, whether it ends there or not.
theorem spelled_of_next (l : Lexer) (t : Token) (after : Lexer) (h : l.next = (.ok t, after)) :
    t.kind = .eof ∧ Spelled l.rest [] ∨
      t.kind ≠ .eof ∧ ∀ ks, Spelled after.rest ks → Spelled l.rest (t.kind :: ks) := by
  have whole : l.rest.takeWhile Text.isBlank ++ l.skipBlank.rest = l.rest :=
    List.takeWhile_append_dropWhile
  have blank : ∀ c ∈ l.rest.takeWhile Text.isBlank, Text.isBlank c = true :=
    fun c => List.mem_takeWhile_imp
  rw [← whole]
  rcases l.next_cases with ⟨last, same⟩ | ⟨c, cs, here, same⟩
  next =>
    cases same.symm.trans h
    rw [last, List.append_nil]
    exact .inl ⟨rfl, .last _ blank⟩
  next =>
    rw [same] at h
    obtain ⟨kind, scanned, rfl, rfl⟩ := (finish_eq_ok_iff _ _ t after).mp h
    have visible : Text.isBlank c = false := by
      have stops := List.head?_dropWhile_not Text.isBlank l.rest
      simp only [skipBlank] at here
      simpa [here] using stops
    refine .inr ⟨(Scan.lexical_read c cs kind scanned).ne_eof, fun ks later => ?_⟩
    rw [here]
    exact .token _ c cs kind ks blank visible scanned later

theorem spelled_of_results (l : Lexer) (ts : List Token) (h : l.results = ts.map .ok) :
    ∃ ks, Spelled l.rest ks ∧ ts.map (·.kind) = ks ++ [.eof] := by
  fun_induction results l generalizing ts with
  | case1 l e after next => cases ts <;> simp at h
  | case2 l t after next last =>
    obtain ⟨u, rfl, same⟩ := List.map_eq_singleton_iff.mp h.symm
    cases same
    rcases spelled_of_next l t after next with ⟨-, spelled⟩ | ⟨more, -⟩
    next => exact ⟨[], spelled, by simp [last]⟩
    next => exact absurd last more
  | case3 l t after next more ih =>
    obtain ⟨u, us, rfl, same, others⟩ := List.map_eq_cons_iff.mp h.symm
    cases same
    obtain ⟨ks, spelled, kinds⟩ := ih us others.symm
    rcases spelled_of_next l t after next with ⟨last, -⟩ | ⟨-, onward⟩
    next => exact absurd last more
    next => exact ⟨t.kind :: ks, onward ks spelled, by simp [kinds]⟩

theorem skipBlank_behind (l : Lexer) (blanks text : List Char) (here : l.rest = blanks ++ text)
    (blank : ∀ c ∈ blanks, Text.isBlank c = true) : l.skipBlank.rest = text.dropWhile Text.isBlank := by
  simp only [skipBlank, here]
  exact List.dropWhile_append_of_pos blank

theorem exists_results (l : Lexer) (ks : List TokenKind) (h : Spelled l.rest ks) :
    ∃ ts : List Token, l.results = ts.map .ok ∧ ts.map (·.kind) = ks ++ [.eof] := by
  generalize here : l.rest = text at h
  induction h generalizing l with
  | last blanks blank =>
    have none : l.skipBlank.rest = [] := by simp [l.skipBlank_behind blanks [] (by simp [here]) blank]
    have read : l.next = (.ok (endToken l.skipBlank.pos), l.skipBlank) := by simp only [next, none]
    exact ⟨[endToken l.skipBlank.pos], l.results_of_end _ _ read rfl, rfl⟩
  | token blanks c cs kind ks blank visible scanned later ih =>
    have first : l.skipBlank.rest = c :: cs := by
      simp [l.skipBlank_behind blanks (c :: cs) here blank, visible]
    let stop := l.skipBlank.pos.after (Scan.read c cs).taken
    have read : l.next = (.ok ⟨kind, span l.skipBlank.pos stop⟩, ⟨(Scan.read c cs).rest, stop⟩) := by
      rw [l.next_of_cons c cs first]
      exact (finish_eq_ok_iff _ _ _ _).mpr ⟨kind, scanned, rfl, rfl⟩
    have more : kind ≠ .eof := (Scan.lexical_read c cs kind scanned).ne_eof
    obtain ⟨ts, results, kinds⟩ := ih ⟨(Scan.read c cs).rest, stop⟩ rfl
    refine ⟨⟨kind, span l.skipBlank.pos stop⟩ :: ts, ?_, by simp [kinds]⟩
    rw [l.results_of_ok _ _ read more, results]
    rfl

end Lexer

end TableScript
