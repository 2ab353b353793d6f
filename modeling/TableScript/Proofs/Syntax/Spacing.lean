import Mathlib.Data.List.Forall2
import TableScript.Proofs.Syntax.Layout

set_option autoImplicit false

namespace TableScript

def spaced (words gaps : List (List Char)) : List Char := (List.zipWith (· ++ ·) words gaps).flatten

namespace Scan

theorem read_lexeme (c : Char) (cs : List Char) (kind : TokenKind) (h : Lexeme (c :: cs) kind) :
    read c cs = ⟨.ok kind, c :: cs, []⟩ := by
  have whole : (read c cs).taken ++ (read c cs).rest = c :: cs := splits_read c cs
  obtain ⟨found, ok, covered, same⟩ := covers_of_lexeme _ kind h c cs List.prefix_rfl
  have none : (read c cs).rest = [] := by
    have size := congrArg List.length whole
    rw [List.length_append] at size
    exact List.length_eq_zero_iff.mp (by omega)
  rw [none, List.append_nil] at whole
  rw [same rfl] at ok
  rw [← ok, ← none]
  exact congrArg (fun taken => (⟨(read c cs).outcome, taken, (read c cs).rest⟩ : Scan)) whole

theorem read_blank (c : Char) (cs : List Char) (blank : Text.isBlank c = true) :
    read c cs = ⟨.error (.unexpectedCharacter c), [], c :: cs⟩ := by
  have other : c ∉ marks := by
    intro mark
    obtain ⟨range, inside, low, high⟩ := (Text.has_eq_true_iff Text.blankRanges c).mp blank
    have apart : ∀ r ∈ Text.blankRanges, r.2 ≤ 0x20 ∨ 0x80 ≤ r.1 := by decide
    have visible : ∀ m ∈ marks, 0x20 < m.toNat ∧ m.toNat < 0x80 := by simp [marks]
    have := apart range inside
    have := visible c mark
    omega
  have first : isWordStart c = false := by
    have part := isWordPart_of_isBlank blank
    simp_all [isWordPart, isWordStart]
  rw [read_of_not_mem_marks c cs other]
  simp [isDigit_of_isBlank blank, first]

end Scan

theorem Lexeme.spelled {w : List Char} {kind : TokenKind} (h : Lexeme w kind) : Spelled w [kind] := by
  obtain ⟨c, cs, rfl⟩ := List.exists_cons_of_ne_nil h.ne_nil
  have scanned := Scan.read_lexeme c cs kind h
  have visible : Text.isBlank c = false := by
    rw [Bool.eq_false_iff]
    intro blank
    cases (Scan.read_blank c cs blank).symm.trans scanned
  refine .token [] c cs kind [] (by simp) visible ?_ ?_
  next => rw [scanned]
  next =>
    rw [scanned]
    exact .last [] (by simp)

theorem spelled_spaced (words : List (List Char)) (ks : List TokenKind) (gaps : List (List Char))
    (lexemes : List.Forall₂ Lexeme words ks) (size : gaps.length = words.length)
    (blank : ∀ gap ∈ gaps, ∀ c ∈ gap, Text.isBlank c = true)
    (apart : ∀ gap ∈ gaps.dropLast, gap ≠ []) : Spelled (spaced words gaps) ks := by
  induction lexemes generalizing gaps with
  | nil => exact .last _ (by simp [spaced])
  | @cons w kind words ks first rest ih =>
    obtain ⟨gap, gaps, rfl⟩ := List.exists_cons_of_length_eq_add_one size
    obtain ⟨here, blank⟩ := List.forall_mem_cons.mp blank
    have later : Spelled (spaced words gaps) ks := by
      refine ih gaps (by simpa using size) blank fun g member => apart g ?_
      cases gaps with
      | nil => simp at member
      | cons next gaps => exact List.mem_cons_of_mem _ member
    have shape : spaced (w :: words) (gap :: gaps) = w ++ gap ++ spaced words gaps := by
      simp [spaced]
    rw [shape]
    cases gap with
    | nil =>
      -- only the last gap may be empty
      cases gaps with
      | nil =>
        obtain rfl := List.length_eq_zero_iff.mp (Nat.succ.inj size).symm
        cases rest
        simpa [spaced] using first.spelled
      | cons next gaps => exact absurd rfl (apart [] (by simp))
    | cons b more =>
      have tail := later.behind_blanks more fun c member => here c (List.mem_cons_of_mem _ member)
      rw [List.append_assoc, List.cons_append]
      exact first.spelled.append tail b (here b List.mem_cons_self)

namespace Lexer

theorem lexemes_of_results (l : Lexer) (source front : List Char) (ts : List Token)
    (behind : l.Behind source front) (h : l.results = ts.map .ok) :
    ∃ read stop, ts = read ++ [stop] ∧ stop.kind = .eof ∧
      ∀ t ∈ read, Lexeme (t.lexeme source) t.kind := by
  fun_induction results l generalizing front ts with
  | case1 l e after next => cases ts <;> simp at h
  | case2 l t after next last =>
    obtain ⟨u, rfl, same⟩ := List.map_eq_singleton_iff.mp h.symm
    cases same
    exact ⟨[], t, rfl, last, by simp⟩
  | case3 l t after next more ih =>
    obtain ⟨u, us, rfl, same, others⟩ := List.map_eq_cons_iff.mp h.symm
    cases same
    obtain ⟨further, there⟩ := behind.next
    rw [next] at there
    obtain ⟨read, stop, rfl, last, all⟩ := ih _ us there others.symm
    refine ⟨t :: read, stop, rfl, last, List.forall_mem_cons.mpr ⟨?_, all⟩⟩
    rcases l.next_cases with ⟨-, same⟩ | ⟨c, cs, here, same⟩
    next =>
      cases same.symm.trans next
      exact absurd rfl more
    next =>
      obtain ⟨-, -, kinds⟩ := behind.skipBlank.finish_ok c cs here t after (same ▸ next)
      exact (kinds t.kind).mpr rfl

end Lexer

-- `start` stands in front of the first lexeme and a gap behind each; only the last gap may be empty.
theorem spacing_changes_only_places (source : String) (ts : List Token)
    (h : tokenize source = .ok ts) (start : List Char) (gaps : List (List Char))
    (blank : ∀ c ∈ start, Text.isBlank c = true)
    (blanks : ∀ gap ∈ gaps, ∀ c ∈ gap, Text.isBlank c = true)
    (apart : ∀ gap ∈ gaps.dropLast, gap ≠ []) :
    let read := ts.filter (·.kind ≠ .eof)
    let lexemes := read.map (·.lexeme source.toList)
    let other := String.ofList (start ++ spaced lexemes gaps)
    gaps.length = lexemes.length →
      (∃ us, tokenize other = .ok us ∧ us.map (·.kind) = read.map (·.kind) ++ [.eof]) ∧
      (∀ p, Program.parse source = .ok p → Program.parse other = .ok p) ∧
      ∀ e, Program.parse source = .error e →
        ∃ e', Program.parse other = .error e' ∧ e.unplaced = e'.unplaced := by
  intro read lexemes other size
  have items := (Lexer.collect_eq_ok_iff _ ts).mp h
  obtain ⟨front, stop, rfl, last, all⟩ :=
    Lexer.lexemes_of_results _ source.toList [] ts ⟨rfl, rfl⟩ items
  have same : read = front := by
    simpa [read, last] using fun t member => (all t member).ne_eof
  have derived : List.Forall₂ Lexeme lexemes (read.map (·.kind)) := by
    rw [List.forall₂_map_left_iff, List.forall₂_map_right_iff, List.forall₂_same, same]
    exact all
  have spelled : Spelled other.toList (read.map (·.kind)) := by
    rw [String.toList_ofList]
    exact (spelled_spaced lexemes _ gaps derived size blanks apart).behind_blanks start blank
  obtain ⟨us, items', kinds⟩ := Lexer.exists_results (Lexer.ofSource other) _ spelled
  have alike : content (front ++ [stop]) = content us := by
    rw [content, content, kinds, same, List.map_append, List.map_singleton, last]
  obtain ⟨read, refused⟩ := Program.ofTokens_of_content _ us alike
  rw [Program.parse, Program.parse, items, items']
  exact ⟨⟨us, (Lexer.collect_eq_ok_iff _ us).mpr items', kinds⟩, read, refused⟩

theorem spacing_changes_only_places_unspaced :
    let other := String.ofList ['\n', '1', ' ', '<', '=', '\n', ' ', 'a']
    let program : Program := [.expr (.binary .lessEqual (.int 1) (.var "a"))]
    (∃ ts, tokenize "1<=a" = .ok ts) ∧ Program.parse "1<=a" = .ok program ∧
    (∃ us, tokenize other = .ok us ∧
      us.map (·.kind) = [.integer 1, .symbol .lessEqual, .identifier "a", .eof]) ∧
    Program.parse other = .ok program := by
  intro other program
  let ts : List Token := [⟨.integer 1, ⟨0, 1, 1, 0⟩⟩, ⟨.symbol .lessEqual, ⟨1, 3, 1, 1⟩⟩,
    ⟨.identifier "a", ⟨3, 4, 1, 3⟩⟩, ⟨.eof, ⟨4, 4, 1, 4⟩⟩]
  have items : (Lexer.ofSource "1<=a").results = ts.map .ok := by
    set_option maxRecDepth 4000 in
    rw [Lexer.results_of_ok _ ⟨.integer 1, ⟨0, 1, 1, 0⟩⟩ _ rfl (by decide),
      Lexer.results_of_ok _ ⟨.symbol .lessEqual, ⟨1, 3, 1, 1⟩⟩ _ rfl (by decide),
      Lexer.results_of_ok _ ⟨.identifier "a", ⟨3, 4, 1, 3⟩⟩ _ rfl (by decide),
      Lexer.results_of_end _ ⟨.eof, ⟨4, 4, 1, 4⟩⟩ _ rfl rfl]
    rfl
  have found : tokenize "1<=a" = .ok ts := (Lexer.collect_eq_ok_iff _ ts).mpr items
  have reads : Program.parse "1<=a" = .ok program := by
    rw [Program.parse, items]
    cbv
  have space : Text.isBlank ' ' = true := by decide
  have line : Text.isBlank '\n' = true := by decide
  obtain ⟨same, read, -⟩ := spacing_changes_only_places "1<=a" ts found ['\n']
    [[' '], ['\n', ' '], []] (by simp [line]) (by simp [space, line]) (by simp) rfl
  exact ⟨⟨ts, found⟩, reads, same, read program reads⟩

end TableScript
